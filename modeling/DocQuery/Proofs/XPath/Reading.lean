import DocQuery.Proofs.Text.Search
import DocQuery.Proofs.XPath.Spread

/-! What the readers of paths take, one statement for each, and from these the reading of paths with a
slash and more text behind them.  No token but the slashes holds a slash, and neither blanks nor names
do.  So every reader finds in the longer text what it finds in the shorter one, and two paths with a
slash between them are read as the steps of the first and then those of the second. -/

namespace DocQuery

namespace XPath

/-- The reading succeeds with the value and leaves the text. -/
def Reads {P : α × List Char → Prop} (reading : Reading { r // P r }) (a : α) (rest : List Char) :
    Prop :=
  ∃ h, reading = .ok ⟨(a, rest), h⟩

section

variable {P : α × List Char → Prop} {Q : β × List Char → Prop} {a a' : α} {rest rest' : List Char}

@[simp]
theorem reads_ok {h : P (a', rest')} :
    Reads (.ok ⟨(a', rest'), h⟩ : Reading { r // P r }) a rest ↔ a' = a ∧ rest' = rest := by
  constructor
  · rintro ⟨_, ⟨⟩⟩
    exact ⟨rfl, rfl⟩
  · rintro ⟨rfl, rfl⟩
    exact ⟨h, rfl⟩

@[simp]
theorem reads_pure {h : P (a', rest')} :
    Reads (pure ⟨(a', rest'), h⟩ : Reading { r // P r }) a rest ↔ a' = a ∧ rest' = rest :=
  reads_ok

@[simp]
theorem not_reads_error {e : PathError} :
    ¬Reads (.error e : Reading { r // P r }) a rest := by
  rintro ⟨_, ⟨⟩⟩

theorem Reads.property {reading : Reading { r // P r }} (h : Reads reading a rest) : P (a, rest) :=
  h.1

/-- What a reading in two steps takes. -/
theorem reads_bind {reading : Reading { r // P r }} {next : { r // P r } → Reading { r // Q r }}
    {b : β} (After : α → List Char → Prop)
    (hnext : ∀ {a middle h}, Reads (next ⟨(a, middle), h⟩) b rest ↔ After a middle) :
    Reads (reading >>= next) b rest ↔ ∃ a middle, Reads reading a middle ∧ After a middle := by
  cases reading with
  | error e =>
    refine iff_of_false not_reads_error ?_
    rintro ⟨a, middle, h, -⟩
    exact not_reads_error h
  | ok r =>
    obtain ⟨⟨a, middle⟩, hr⟩ := r
    exact hnext.trans (by simp)

end

/-! ### What the readers take -/

variable {cs rest : List Char}

/-- The name stands next, and the text behind it. -/
def ReadsName (cs : List Char) (name : String) (rest : List Char) : Prop :=
  (readName? cs).map Subtype.val = some (name, rest)

theorem reads_expect {token : String} {u : Unit} :
    Reads (expect token cs) u rest ↔ take? token cs = some rest := by
  rw [expect]
  split <;> rename_i h <;> simp [h]

theorem reads_readTest {test : NodeTest} :
    Reads (readTest cs) test rest ↔
      take? "*" cs = some rest ∧ .wildcard = test ∨
      take? "*" cs = none ∧ ∃ name after, ReadsName cs name after ∧
        (take? "(" after = none ∧ .name name = test ∧ skipBlanks after = rest ∨
         ∃ inside, take? "(" after = some inside ∧ take? ")" inside = some rest ∧
           NodeTest.ofFunction? name = some test) := by
  rw [readTest]
  split
  · rename_i hstar
    simp [hstar, and_comm]
  rename_i hstar
  split
  · rename_i hname
    simp [hstar, ReadsName, hname]
  rename_i name after hlt hname
  split
  · rename_i hopen
    simp [hstar, ReadsName, hname, hopen]
  · rename_i inside hopen
    refine Iff.trans (reads_bind
      (fun _ middle => middle = rest ∧ NodeTest.ofFunction? name = some test) ?_) ?_
    · rintro ⟨⟩ middle _
      cases NodeTest.ofFunction? name <;> simp [and_comm]
    · simp [hstar, ReadsName, hname, hopen, reads_expect]

theorem reads_readLiteral {value : String} :
    Reads (readLiteral cs) value rest ↔
      ∃ q inside q', skipBlanks cs = q :: inside ∧ (q = '\x27' ∨ q = '\x22') ∧
        inside.dropWhile (· ≠ q) = q' :: rest ∧
        String.ofList (inside.takeWhile (· ≠ q)) = value := by
  rw [readLiteral]
  split
  · rename_i hskip
    simp [hskip]
  rename_i q inside hskip
  split
  · rename_i hq
    split <;> rename_i hclose <;> simp only [ne_eq, decide_not] at hclose <;>
      simp [hskip, hq, hclose, and_comm]
  · rename_i hq
    simp [hskip, hq]

/-- A text is read back from quotes that it does not hold. -/
theorem readLiteral_quoted {q : Char} (hq : q = '\x27' ∨ q = '\x22') {value : String}
    (h : q ∉ value.toList) (rest : List Char) :
    Reads (readLiteral (q :: (value.toList ++ q :: rest))) value rest := by
  have hall : ∀ c ∈ value.toList, decide (c ≠ q) = true :=
    fun c hc => decide_eq_true fun heq => h (heq ▸ hc)
  have hskip : ∀ cs, skipBlanks (q :: cs) = q :: cs := by
    rcases hq with rfl | rfl <;> exact fun _ => rfl
  have hend : ∀ c ∈ (q :: rest).head?, decide (c ≠ q) = false := by simp
  obtain ⟨htake, hdrop⟩ := Text.span_append hall hend
  refine reads_readLiteral.mpr ⟨q, _, q, hskip _, hq, hdrop, ?_⟩
  rw [htake, String.ofList_toList]

theorem reads_readAttributeCondition {condition : Condition} :
    Reads (readAttributeCondition cs) condition rest ↔
      ∃ name after, ReadsName cs name after ∧
        (take? "=" after = none ∧ .hasAttribute name = condition ∧ after = rest ∨
         ∃ behind value, take? "=" after = some behind ∧ Reads (readLiteral behind) value rest ∧
           .attributeEquals name value = condition) := by
  rw [readAttributeCondition]
  split
  · rename_i hname
    simp [ReadsName, hname]
  rename_i name after hlt hname
  split
  · rename_i hequals
    simp [ReadsName, hname, hequals]
  · rename_i behind hequals
    refine Iff.trans (reads_bind _ reads_pure) ?_
    simp [ReadsName, hname, hequals]

theorem reads_readCondition {condition : Condition} :
    Reads (readCondition cs) condition rest ↔
      (skipBlanks cs).takeWhile Char.isDigit ≠ [] ∧
        (∃ n, readIndex ((skipBlanks cs).takeWhile Char.isDigit) = .ok n ∧
          .position n = condition ∧ (skipBlanks cs).dropWhile Char.isDigit = rest) ∨
      (skipBlanks cs).takeWhile Char.isDigit = [] ∧
        (take? "last()" cs = some rest ∧ .last = condition ∨
         take? "last()" cs = none ∧ ∃ after, take? "@" cs = some after ∧
           Reads (readAttributeCondition after) condition rest) := by
  rw [readCondition]
  dsimp only
  split
  · rename_i hdigits
    have hdigits' : (skipBlanks cs).takeWhile Char.isDigit ≠ [] := by simpa using hdigits
    split <;> rename_i hindex <;> simp [hdigits', hindex]
  · rename_i hdigits
    have hdigits' : (skipBlanks cs).takeWhile Char.isDigit = [] := by simpa using hdigits
    split
    · rename_i hlast
      simp [hdigits', hlast, and_comm]
    rename_i hlast
    split
    · rename_i hat
      simp [hdigits', hlast, hat]
    · rename_i hat
      refine Iff.trans (reads_bind _ reads_pure) ?_
      simp [hdigits', hlast, hat]

theorem reads_readConditions {conditions : List Condition} :
    Reads (readConditions cs) conditions rest ↔
      take? "[" cs = none ∧ [] = conditions ∧ cs = rest ∨
      ∃ inside condition behind after others, take? "[" cs = some inside ∧
        Reads (readCondition inside) condition behind ∧ take? "]" behind = some after ∧
        Reads (readConditions after) others rest ∧ condition :: others = conditions := by
  rw [readConditions]
  split
  · rename_i hopen
    simp [hopen]
  · rename_i inside hopen
    refine Iff.trans (reads_bind _ (reads_bind _ (reads_bind _ reads_pure))) ?_
    simp [hopen, reads_expect]

theorem reads_readAxis {axis : Axis} :
    Reads (readAxis cs) axis rest ↔
      take? "@" cs = some rest ∧ .attribute = axis ∨
      take? "@" cs = none ∧
        ((∀ name after, ReadsName cs name after → take? "::" after = none) ∧
          .child = axis ∧ cs = rest ∨
         ∃ name after, ReadsName cs name after ∧ take? "::" after = some rest ∧
           Axis.ofName? name = some axis) := by
  rw [readAxis]
  split
  · rename_i hat
    simp [hat, and_comm]
  rename_i hat
  split
  · rename_i hname
    simp [hat, ReadsName, hname]
  rename_i name after hlt hname
  split
  · rename_i hcolons
    simp [hat, ReadsName, hname, hcolons]
  · rename_i behind hcolons
    split <;> rename_i haxis <;> simp [hat, ReadsName, hname, hcolons, haxis, and_comm]

theorem reads_readStep {step : Step} :
    Reads (readStep cs) step rest ↔
      take? ".." cs = some rest ∧ { axis := .parent, test := .node } = step ∨
      take? ".." cs = none ∧
        (take? "." cs = some rest ∧ { axis := .self, test := .node } = step ∨
         take? "." cs = none ∧ ∃ axis behind test after conditions,
           Reads (readAxis cs) axis behind ∧ Reads (readTest behind) test after ∧
           Reads (readConditions after) conditions rest ∧
           { axis, test, conditions } = step) := by
  rw [readStep]
  split
  · rename_i hparent
    simp [hparent, and_comm]
  rename_i hparent
  split
  · rename_i hself
    simp [hparent, hself, and_comm]
  · rename_i hself
    refine Iff.trans (reads_bind _ (reads_bind _ (reads_bind _ reads_pure))) ?_
    simp [hparent, hself]

theorem return_eq_ok {reading : Reading α} {f : α → β} {b : β} :
    (do return f (← reading)) = Except.ok b ↔ ∃ a, reading = .ok a ∧ f a = b := by
  cases reading with
  | error e => exact iff_of_false (by rintro ⟨⟩) (by rintro ⟨_, ⟨⟩, _⟩)
  | ok a =>
    constructor
    · rintro ⟨⟩
      exact ⟨a, rfl, rfl⟩
    · rintro ⟨_, ⟨⟩, rfl⟩
      rfl

theorem readSteps_eq_ok {steps : List Step} :
    readSteps cs = .ok steps ↔
      ∃ step rest, Reads (readStep cs) step rest ∧
        ((∃ after others, take? "//" rest = some after ∧ readSteps after = .ok others ∧
           step :: .anywhere :: others = steps) ∨
         take? "//" rest = none ∧
          ((∃ after others, take? "/" rest = some after ∧ readSteps after = .ok others ∧
             step :: others = steps) ∨
           take? "/" rest = none ∧ skipBlanks rest = [] ∧ [step] = steps)) := by
  rw [readSteps]
  cases hstep : readStep cs with
  | error e =>
    refine iff_of_false (by rintro ⟨⟩) ?_
    rintro ⟨_, _, h, -⟩
    exact not_reads_error h
  | ok r =>
    obtain ⟨⟨step, rest⟩, hrest⟩ := r
    dsimp only [bind, Except.bind]
    split
    · rename_i after hdouble
      refine Iff.trans return_eq_ok ?_
      simp [hdouble]
    rename_i hdouble
    split
    · rename_i after hsingle
      refine Iff.trans return_eq_ok ?_
      simp [hdouble, hsingle]
    · rename_i hsingle
      split <;> rename_i hblank <;> rw [List.isEmpty_iff] at hblank <;>
        simp [hdouble, hsingle, hblank, pure, Except.pure]

theorem readPath_eq_ok {text : String} {path : Path} :
    readPath text = .ok path ↔
      (∃ rest steps, take? "//" text.toList = some rest ∧ readSteps rest = .ok steps ∧
        ⟨true, .anywhere :: steps⟩ = path) ∨
      take? "//" text.toList = none ∧
        ((∃ rest, take? "/" text.toList = some rest ∧
           (skipBlanks rest = [] ∧ ⟨true, []⟩ = path ∨
            skipBlanks rest ≠ [] ∧ ∃ steps, readSteps rest = .ok steps ∧ ⟨true, steps⟩ = path)) ∨
         take? "/" text.toList = none ∧
           ∃ steps, readSteps text.toList = .ok steps ∧ ⟨false, steps⟩ = path) := by
  rw [readPath]
  split
  · rename_i rest hdouble
    refine Iff.trans return_eq_ok ?_
    simp [hdouble]
  rename_i hdouble
  split
  · rename_i rest hsingle
    split <;> rename_i hblank <;> rw [List.isEmpty_iff] at hblank
    · simp [hdouble, hsingle, hblank]
    · refine Iff.trans return_eq_ok ?_
      simp [hdouble, hsingle, hblank]
  · rename_i hsingle
    refine Iff.trans return_eq_ok ?_
    simp [hdouble, hsingle]

/-- A condition on an attribute that nothing follows. -/
theorem reads_lastCondition {inside : List Char} {condition : Condition}
    (h : Reads (readAttributeCondition inside) condition [']']) :
    Reads (readConditions ('[' :: '@' :: inside)) [condition] [] := by
  have hcondition : Reads (readCondition ('@' :: inside)) condition [']'] :=
    reads_readCondition.mpr (.inr ⟨rfl, .inr ⟨rfl, _, rfl, h⟩⟩)
  exact reads_readConditions.mpr (.inr ⟨_, _, _, [], [], rfl, hcondition, rfl,
    reads_readConditions.mpr (.inl ⟨rfl, rfl, rfl⟩), rfl⟩)

/-- A path of one step. -/
theorem readPath_of_readStep {text : String} (htext : text.toList = cs) {step : Step}
    (h : Reads (readStep cs) step []) (hdouble : take? "//" cs = none)
    (hsingle : take? "/" cs = none) : readPath text = .ok ⟨false, [step]⟩ := by
  have hsteps : readSteps cs = .ok [step] :=
    readSteps_eq_ok.mpr ⟨step, [], h, .inr ⟨rfl, .inr ⟨rfl, rfl, rfl⟩⟩⟩
  rw [readPath_eq_ok, htext]
  exact .inr ⟨hdouble, .inr ⟨hsingle, _, hsteps, rfl⟩⟩

/-! ### More text behind a slash -/

variable (ds : List Char)

theorem takeWhile_append_slash {p : Char → Bool} (hp : p '/' = false) (cs : List Char) :
    (cs ++ '/' :: ds).takeWhile p = cs.takeWhile p := by
  induction cs with
  | nil => exact List.takeWhile_cons_of_neg (Bool.eq_false_iff.mp hp)
  | cons c cs ih => rw [List.cons_append, List.takeWhile_cons, List.takeWhile_cons, ih]

theorem dropWhile_append_slash {p : Char → Bool} (hp : p '/' = false) (cs : List Char) :
    (cs ++ '/' :: ds).dropWhile p = cs.dropWhile p ++ '/' :: ds := by
  induction cs with
  | nil => exact List.dropWhile_cons_of_neg (Bool.eq_false_iff.mp hp)
  | cons c cs ih =>
    rw [List.cons_append, List.dropWhile_cons, List.dropWhile_cons, ih]
    split <;> rfl

theorem skipBlanks_append (cs : List Char) :
    skipBlanks (cs ++ '/' :: ds) = skipBlanks cs ++ '/' :: ds :=
  dropWhile_append_slash ds (by decide) cs

theorem dropToken?_append {token : List Char} (h : '/' ∉ token) (cs : List Char) :
    dropToken? token (cs ++ '/' :: ds) = (dropToken? token cs).map (· ++ '/' :: ds) := by
  induction token generalizing cs with
  | nil => rfl
  | cons t token ih =>
    rw [List.mem_cons, not_or] at h
    cases cs with
    | nil => exact if_neg (Ne.symm h.1)
    | cons c cs =>
      rw [List.cons_append, dropToken?, dropToken?]
      by_cases htc : t = c
      · rw [if_pos htc, if_pos htc, ih h.2]
      · rw [if_neg htc, if_neg htc]
        rfl

theorem dropToken?_append_of_some {token cs rest : List Char} (more : List Char)
    (h : dropToken? token cs = some rest) : dropToken? token (cs ++ more) = some (rest ++ more) := by
  induction token generalizing cs with
  | nil =>
    cases h
    rfl
  | cons t token ih =>
    cases cs with
    | nil => cases h
    | cons c cs =>
      rw [dropToken?] at h
      rw [List.cons_append, dropToken?]
      split at h
      · rename_i htc
        rw [if_pos htc]
        exact ih h
      · cases h

theorem take?_append {token : String} (h : '/' ∉ token.toList) (cs : List Char) :
    take? token (cs ++ '/' :: ds) = (take? token cs).map (· ++ '/' :: ds) := by
  rw [take?, skipBlanks_append, dropToken?_append ds h, take?]

theorem take?_append_of_some {token : String} {cs rest : List Char}
    (h : take? token cs = some rest) :
    take? token (cs ++ '/' :: ds) = some (rest ++ '/' :: ds) := by
  rw [take?, skipBlanks_append]
  exact dropToken?_append_of_some _ h

theorem take?_append_of_none {token : String} {cs : List Char} (h : '/' ∉ token.toList)
    (hnone : take? token cs = none) : take? token (cs ++ '/' :: ds) = none := by
  rw [take?_append ds h, hnone]
  rfl

/-- The name and the text behind it, if a name stands next. -/
theorem readName?_val (cs : List Char) :
    (readName? cs).map Subtype.val =
      ((skipBlanks cs).head?.filter isNameStart).map fun _ =>
        (String.ofList ((skipBlanks cs).takeWhile isNameChar),
          (skipBlanks cs).dropWhile isNameChar) := by
  rw [readName?]
  split
  · rename_i hskip
    rw [hskip]
    rfl
  · rename_i c rest hskip
    simp only [hskip, List.head?_cons]
    by_cases hc : isNameStart c
    · rw [dif_pos hc, Option.filter_some_pos hc]
      rfl
    · rw [dif_neg hc, Option.filter_some_neg (Bool.eq_false_iff.mpr hc)]
      rfl

theorem readName?_append (cs : List Char) :
    (readName? (cs ++ '/' :: ds)).map Subtype.val =
      (readName? cs).map fun r => (r.val.1, r.val.2 ++ '/' :: ds) := by
  have hslash : isNameChar '/' = false := by decide
  have hval : ((readName? cs).map fun r => (r.val.1, r.val.2 ++ '/' :: ds)) =
      ((readName? cs).map Subtype.val).map fun r => (r.1, r.2 ++ '/' :: ds) := by
    rw [Option.map_map]
    rfl
  rw [hval, readName?_val, readName?_val, Option.map_map, skipBlanks_append,
    takeWhile_append_slash ds hslash, dropWhile_append_slash ds hslash]
  cases skipBlanks cs with
  | nil => rfl
  | cons c rest => rfl

theorem readsName_append {name : String} {after : List Char} :
    ReadsName (cs ++ '/' :: ds) name after ↔
      ∃ rest, ReadsName cs name rest ∧ rest ++ '/' :: ds = after := by
  rw [ReadsName, readName?_append]
  simp only [ReadsName]
  cases readName? cs with
  | none => simp
  | some r => simp [Prod.ext_iff]

theorem ReadsName.append {name : String} (h : ReadsName cs name rest) :
    ReadsName (cs ++ '/' :: ds) name (rest ++ '/' :: ds) :=
  (readsName_append ds).mpr ⟨rest, h, rfl⟩

theorem readTest_append {test : NodeTest} (h : Reads (readTest cs) test rest) :
    Reads (readTest (cs ++ '/' :: ds)) test (rest ++ '/' :: ds) := by
  rw [reads_readTest] at h ⊢
  rcases h with ⟨hstar, htest⟩ | ⟨hstar, name, after, hname, h⟩
  · exact .inl ⟨take?_append_of_some ds hstar, htest⟩
  refine .inr ⟨take?_append_of_none ds (by decide) hstar, name, _, hname.append ds, ?_⟩
  rcases h with ⟨hopen, htest, rfl⟩ | ⟨inside, hopen, hclose, htest⟩
  · exact .inl ⟨take?_append_of_none ds (by decide) hopen, htest, skipBlanks_append ds after⟩
  · exact .inr ⟨_, take?_append_of_some ds hopen, take?_append_of_some ds hclose, htest⟩

theorem readLiteral_append {value : String} (h : Reads (readLiteral cs) value rest) :
    Reads (readLiteral (cs ++ '/' :: ds)) value (rest ++ '/' :: ds) := by
  rw [reads_readLiteral] at h ⊢
  obtain ⟨q, inside, q', hskip, hq, hclose, rfl⟩ := h
  obtain ⟨htake, hdrop⟩ := Text.takeWhile_append_of_stop hclose ('/' :: ds)
  refine ⟨q, inside ++ '/' :: ds, q', ?_, hq, hdrop, by rw [htake]⟩
  rw [skipBlanks_append, hskip, List.cons_append]

theorem readAttributeCondition_append {condition : Condition}
    (h : Reads (readAttributeCondition cs) condition rest) :
    Reads (readAttributeCondition (cs ++ '/' :: ds)) condition (rest ++ '/' :: ds) := by
  rw [reads_readAttributeCondition] at h ⊢
  obtain ⟨name, after, hname, h⟩ := h
  refine ⟨name, _, hname.append ds, ?_⟩
  rcases h with ⟨hequals, hcondition, rfl⟩ | ⟨behind, value, hequals, hvalue, hcondition⟩
  · exact .inl ⟨take?_append_of_none ds (by decide) hequals, hcondition, rfl⟩
  · exact .inr ⟨_, value, take?_append_of_some ds hequals, readLiteral_append ds hvalue, hcondition⟩

theorem readCondition_append {condition : Condition} (h : Reads (readCondition cs) condition rest) :
    Reads (readCondition (cs ++ '/' :: ds)) condition (rest ++ '/' :: ds) := by
  have hslash : Char.isDigit '/' = false := by decide
  rw [reads_readCondition] at h ⊢
  rw [skipBlanks_append, takeWhile_append_slash ds hslash, dropWhile_append_slash ds hslash]
  rcases h with ⟨hdigits, n, hindex, hcondition, rfl⟩ | ⟨hdigits, h⟩
  · exact .inl ⟨hdigits, n, hindex, hcondition, rfl⟩
  refine .inr ⟨hdigits, ?_⟩
  rcases h with ⟨hlast, hcondition⟩ | ⟨hlast, after, hat, hcondition⟩
  · exact .inl ⟨take?_append_of_some ds hlast, hcondition⟩
  · exact .inr ⟨take?_append_of_none ds (by decide) hlast, _, take?_append_of_some ds hat,
      readAttributeCondition_append ds hcondition⟩

theorem readConditions_append {conditions : List Condition}
    (h : Reads (readConditions cs) conditions rest) :
    Reads (readConditions (cs ++ '/' :: ds)) conditions (rest ++ '/' :: ds) := by
  induction hn : cs.length using Nat.strongRecOn generalizing cs conditions with
  | ind n ih =>
  subst hn
  rw [reads_readConditions] at h ⊢
  rcases h with ⟨hopen, hnil, rfl⟩ |
    ⟨inside, condition, behind, after, others, hopen, hfirst, hclose, hothers, hcons⟩
  · exact .inl ⟨take?_append_of_none ds (by decide) hopen, hnil, rfl⟩
  · have hlt : after.length < cs.length := by
      have hone : "[".length = 1 := by decide
      have hinside := length_take?_le hopen
      have hbehind := hfirst.property
      have hafter := length_take?_le hclose
      dsimp only at hbehind
      omega
    exact .inr ⟨_, condition, _, _, others, take?_append_of_some ds hopen,
      readCondition_append ds hfirst, take?_append_of_some ds hclose, ih _ hlt hothers rfl, hcons⟩

theorem readAxis_append {axis : Axis} (h : Reads (readAxis cs) axis rest) :
    Reads (readAxis (cs ++ '/' :: ds)) axis (rest ++ '/' :: ds) := by
  rw [reads_readAxis] at h ⊢
  rcases h with ⟨hat, haxis⟩ | ⟨hat, h⟩
  · exact .inl ⟨take?_append_of_some ds hat, haxis⟩
  refine .inr ⟨take?_append_of_none ds (by decide) hat, ?_⟩
  rcases h with ⟨hcolons, haxis, rfl⟩ | ⟨name, after, hname, hcolons, haxis⟩
  -- A name without colons behind it is that of the node test, and is not taken.
  · refine .inl ⟨?_, haxis, rfl⟩
    intro name after hname
    obtain ⟨rest, hrest, rfl⟩ := (readsName_append ds).mp hname
    exact take?_append_of_none ds (by decide) (hcolons name rest hrest)
  · exact .inr ⟨name, _, hname.append ds, take?_append_of_some ds hcolons, haxis⟩

theorem readStep_append {step : Step} (h : Reads (readStep cs) step rest) :
    Reads (readStep (cs ++ '/' :: ds)) step (rest ++ '/' :: ds) := by
  rw [reads_readStep] at h ⊢
  rcases h with ⟨hparent, hstep⟩ | ⟨hparent, h⟩
  · exact .inl ⟨take?_append_of_some ds hparent, hstep⟩
  refine .inr ⟨take?_append_of_none ds (by decide) hparent, ?_⟩
  rcases h with ⟨hself, hstep⟩ |
    ⟨hself, axis, behind, test, after, conditions, haxis, htest, hconditions, hstep⟩
  · exact .inl ⟨take?_append_of_some ds hself, hstep⟩
  · exact .inr ⟨take?_append_of_none ds (by decide) hself, axis, _, test, _, conditions,
      readAxis_append ds haxis, readTest_append ds htest, readConditions_append ds hconditions,
      hstep⟩

/-! ### Steps behind steps -/

theorem take?_of_blank {token : String} (hblank : skipBlanks cs = []) (h : token.toList ≠ []) :
    take? token cs = none := by
  rw [take?, hblank]
  obtain ⟨t, token, htoken⟩ := List.exists_cons_of_ne_nil h
  rw [htoken]
  rfl

theorem not_readsName_of_blank (hblank : skipBlanks cs = []) {name : String} :
    ¬ReadsName cs name rest := by
  rw [ReadsName, readName?_val, hblank]
  rintro ⟨⟩

theorem not_reads_readStep (hblank : skipBlanks cs = []) {step : Step} :
    ¬Reads (readStep cs) step rest := by
  have hnone : ∀ {token : String} {rest : List Char}, token.toList ≠ [] →
      take? token cs ≠ some rest := by
    intro token rest htoken
    rw [take?_of_blank hblank htoken]
    rintro ⟨⟩
  -- No token and no name stands in blanks, so every branch of the reader stops.
  rw [reads_readStep]
  rintro (⟨hparent, -⟩ | ⟨-, ⟨hself, -⟩ | ⟨-, axis, behind, test, after, _, haxis, htest, -⟩⟩)
  · exact hnone (by decide) hparent
  · exact hnone (by decide) hself
  rw [reads_readAxis] at haxis
  rcases haxis with ⟨hat, -⟩ | ⟨-, ⟨-, -, rfl⟩ | ⟨name, _, hname, -⟩⟩
  · exact hnone (by decide) hat
  · rw [reads_readTest] at htest
    rcases htest with ⟨hstar, -⟩ | ⟨-, name, _, hname, -⟩
    · exact hnone (by decide) hstar
    · exact not_readsName_of_blank hblank hname
  · exact not_readsName_of_blank hblank hname

theorem skipBlanks_ne_nil_of_readSteps {steps : List Step} (h : readSteps cs = .ok steps) :
    skipBlanks cs ≠ [] := by
  intro hblank
  obtain ⟨step, rest, hstep, -⟩ := readSteps_eq_ok.mp h
  exact not_reads_readStep hblank hstep

/-- A text that does not start with a slash, blanks aside, makes no double slash with one before. -/
theorem take?_slashes_of_relative {cs : List Char} (hblank : skipBlanks cs = []) (ds : List Char)
    (hrelative : take? "/" ds = none) :
    take? "//" (cs ++ '/' :: ds) = none ∧ take? "/" (cs ++ '/' :: ds) = some ds := by
  have hskip : skipBlanks (cs ++ '/' :: ds) = '/' :: ds := by
    rw [skipBlanks_append, hblank, List.nil_append]
  rw [take?, take?, hskip]
  refine ⟨?_, rfl⟩
  cases ds with
  | nil => rfl
  | cons d ds =>
    by_cases hd : '/' = d
    · subst hd
      cases hrelative
    · exact if_neg hd

/-- What does not start with a slash does not with a slash behind it. -/
theorem take?_slashes_of_none {cs : List Char} (hcs : skipBlanks cs ≠ [])
    (hsingle : take? "/" cs = none) (ds : List Char) :
    take? "//" (cs ++ '/' :: ds) = none ∧ take? "/" (cs ++ '/' :: ds) = none := by
  rw [take?] at hsingle
  rw [take?, take?, skipBlanks_append]
  generalize skipBlanks cs = cs at hcs hsingle
  obtain ⟨c, cs, rfl⟩ := List.exists_cons_of_ne_nil hcs
  have hc : '/' ≠ c := by
    rintro rfl
    cases hsingle
  exact ⟨if_neg hc, if_neg hc⟩

/-- A single slash stays single with text in front of the slash behind it. -/
theorem take?_slashes_of_ne_nil {cs rest : List Char} (hdouble : take? "//" cs = none)
    (hsingle : take? "/" cs = some rest) (hrest : rest ≠ []) (ds : List Char) :
    take? "//" (cs ++ '/' :: ds) = none := by
  rw [take?] at hdouble hsingle ⊢
  rw [skipBlanks_append]
  generalize skipBlanks cs = cs at hdouble hsingle
  cases cs with
  | nil => cases hsingle
  | cons c cs =>
    change (if '/' = c then some cs else none) = some rest at hsingle
    split at hsingle
    · rename_i hc
      subst hc
      cases hsingle
      cases rest with
      | nil => exact absurd rfl hrest
      | cons d rest =>
        change (if '/' = d then some rest else none) = none at hdouble
        change (if '/' = d then some _ else none) = none
        split at hdouble
        · cases hdouble
        · rename_i hd
          exact if_neg hd
    · cases hsingle

/-- Steps are read, and then those behind the slash that follows them. -/
theorem readSteps_append {cs ds : List Char} {steps more : List Step}
    (h : readSteps cs = .ok steps) (hmore : readSteps ds = .ok more)
    (hrelative : take? "/" ds = none) : readSteps (cs ++ '/' :: ds) = .ok (steps ++ more) := by
  -- By what is left of the first text; the two slashes meet only where it is over.
  induction hn : cs.length using Nat.strongRecOn generalizing cs steps with
  | ind n ih =>
  subst hn
  rw [readSteps_eq_ok] at h ⊢
  obtain ⟨step, rest, hstep, h⟩ := h
  have hlt : ∀ {token : String} {after : List Char}, token.length ≠ 0 →
      take? token rest = some after → after.length < cs.length := by
    intro token after htoken htake
    have hrest := hstep.property
    have hafter := length_take?_le htake
    dsimp only at hrest
    omega
  refine ⟨step, _, readStep_append ds hstep, ?_⟩
  rcases h with ⟨after, others, hdouble, hafter, rfl⟩ | ⟨hdouble, h⟩
  · exact .inl ⟨_, _, take?_append_of_some ds hdouble, ih _ (hlt (by decide) hdouble) hafter rfl,
      rfl⟩
  rcases h with ⟨after, others, hsingle, hafter, rfl⟩ | ⟨-, hblank, rfl⟩
  -- There is a step between a slash of the first text and the one behind the text.
  · have hne : after ≠ [] := by
      rintro rfl
      exact skipBlanks_ne_nil_of_readSteps hafter rfl
    exact .inr ⟨take?_slashes_of_ne_nil hdouble hsingle hne ds, .inl ⟨_, _,
      take?_append_of_some ds hsingle, ih _ (hlt (by decide) hsingle) hafter rfl, rfl⟩⟩
  · obtain ⟨hdouble', hsingle'⟩ := take?_slashes_of_relative hblank ds hrelative
    exact .inr ⟨hdouble', .inl ⟨ds, more, hsingle', hmore, rfl⟩⟩

/-- A path that does not start at the document starts with a step. -/
theorem steps_of_relative {text : String} {path : Path} (h : readPath text = .ok path)
    (hrelative : path.isAbsolute = false) :
    readSteps text.toList = .ok path.steps ∧ take? "/" text.toList = none := by
  rcases readPath_eq_ok.mp h with
    ⟨_, _, _, _, rfl⟩ | ⟨_, ⟨_, _, ⟨_, rfl⟩ | ⟨_, _, _, rfl⟩⟩ | ⟨hsingle, steps, hsteps, rfl⟩⟩
  · cases hrelative
  · cases hrelative
  · cases hrelative
  · exact ⟨hsteps, hsingle⟩

/-- Two paths with a slash between them are the path of the steps of both. -/
theorem readPath_append {first second : String} {path next : Path}
    (hfirst : readPath first = .ok path) (hsteps : path.steps ≠ [])
    (hsecond : readPath second = .ok next) (hrelative : next.isAbsolute = false) :
    readPath (first ++ "/" ++ second) = .ok { path with steps := path.steps ++ next.steps } := by
  obtain ⟨hmore, hslash⟩ := steps_of_relative hsecond hrelative
  have htext : (first ++ "/" ++ second).toList = first.toList ++ '/' :: second.toList := by
    rw [String.toList_append, String.toList_append, List.append_assoc]
    rfl
  rw [readPath_eq_ok] at hfirst ⊢
  rw [htext]
  rcases hfirst with ⟨rest, steps, hdouble, hrest, rfl⟩ |
    ⟨hdouble, ⟨rest, hsingle, ⟨_, rfl⟩ | ⟨hblank, steps, hrest, rfl⟩⟩ | ⟨hsingle, steps, hread, rfl⟩⟩
  · exact .inl ⟨_, _, take?_append_of_some _ hdouble, readSteps_append hrest hmore hslash, rfl⟩
  · exact absurd rfl hsteps
  · have hne : rest ≠ [] := by
      rintro rfl
      exact hblank rfl
    have hblank' : skipBlanks (rest ++ '/' :: second.toList) ≠ [] := by
      rw [skipBlanks_append]
      exact List.append_ne_nil_of_right_ne_nil _ (List.cons_ne_nil _ _)
    exact .inr ⟨take?_slashes_of_ne_nil hdouble hsingle hne _, .inl ⟨_,
      take?_append_of_some _ hsingle, .inr ⟨hblank', _, readSteps_append hrest hmore hslash, rfl⟩⟩⟩
  · obtain ⟨hdouble', hsingle'⟩ :=
      take?_slashes_of_none (skipBlanks_ne_nil_of_readSteps hread) hsingle second.toList
    exact .inr ⟨hdouble', .inr ⟨hsingle', _, readSteps_append hread hmore hslash, rfl⟩⟩

end XPath

end DocQuery
