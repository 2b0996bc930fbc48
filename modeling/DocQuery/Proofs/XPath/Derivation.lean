import DocQuery.Proofs.Json.Address
import DocQuery.Proofs.XPath.Attributes
import DocQuery.Proofs.XPath.Grammar

/-! What a reader of paths takes is a text of its construct, and stands for what the reader
returns. -/

namespace DocQuery

namespace XPath

variable {s r cs rest : List Char} {c : Char} {n : String}

/-! ### Blanks and tokens -/

theorem isBlank_iff : isBlank c ↔ c ∈ [' ', '\t', '\n', '\x0c', '\r'] := by
  simp [isBlank, or_assoc]

theorem blanks_nil : Grammar.Blanks [] := fun _ hc => absurd hc List.not_mem_nil

theorem skipBlanks_of_blanks {blanks : List Char} (h : Grammar.Blanks blanks) (cs : List Char) :
    skipBlanks (blanks ++ cs) = skipBlanks cs :=
  List.dropWhile_append_of_pos fun c hc => isBlank_iff.mpr (h c hc)

theorem exists_blanks (cs : List Char) :
    ∃ blanks, Grammar.Blanks blanks ∧ cs = blanks ++ skipBlanks cs :=
  ⟨cs.takeWhile isBlank, fun _ hc => isBlank_iff.mp (List.mem_takeWhile_imp hc),
    List.takeWhile_append_dropWhile.symm⟩

theorem blanks_iff : Grammar.Blanks cs ↔ skipBlanks cs = [] := by
  rw [skipBlanks, List.dropWhile_eq_nil_iff]
  exact forall₂_congr fun c _ => isBlank_iff.symm

theorem skipBlanks_of_head (hc : isBlank c = false) (h : cs.head? = some c) :
    skipBlanks cs = cs := by
  obtain ⟨more, rfl⟩ := List.head?_eq_some_iff.mp h
  exact List.dropWhile_cons_of_neg (by simp [hc])

/-- A character that is not blank stands behind blanks only if it stands behind them all. -/
theorem head?_skipBlanks_append {after : List Char} (hafter : Grammar.Blanks after)
    (hc : isBlank c = false) (h : (after ++ r).head? = some c) : (skipBlanks r).head? = some c := by
  rw [← skipBlanks_of_blanks hafter, skipBlanks_of_head hc h, h]

theorem skipBlanks_skipBlanks (cs : List Char) : skipBlanks (skipBlanks cs) = skipBlanks cs :=
  List.dropWhile_idempotent _ _

theorem dropToken?_eq_some {token : List Char} :
    dropToken? token cs = some rest ↔ cs = token ++ rest := by
  induction token generalizing cs with
  | nil => simp [dropToken?]
  | cons t token ih =>
    cases cs with
    | nil => simp [dropToken?]
    | cons c cs =>
      rw [dropToken?, List.cons_append, List.cons.injEq, ← ih]
      by_cases htc : t = c
      · simp [htc]
      · simp [htc, Ne.symm htc]

theorem token_of_take? {token : String} (h : take? token cs = some rest) :
    Grammar.token token.toList cs rest := by
  obtain ⟨before, hbefore, hcs⟩ := exists_blanks cs
  rw [take?, dropToken?_eq_some] at h
  refine ⟨before, [], hbefore, blanks_nil, ?_⟩
  rw [h] at hcs
  exact hcs

theorem exists_of_token {token : List Char} (h : Grammar.token (c :: token) s r)
    (hc : isBlank c = false) :
    ∃ after, Grammar.Blanks after ∧ skipBlanks s = c :: (token ++ (after ++ r)) := by
  obtain ⟨before, after, hbefore, hafter, rfl⟩ := h
  refine ⟨after, hafter, ?_⟩
  rw [skipBlanks_of_blanks hbefore]
  exact skipBlanks_of_head hc rfl

theorem head?_of_token {token : List Char} (h : Grammar.token (c :: token) s r)
    (hc : isBlank c = false) : (skipBlanks s).head? = some c := by
  obtain ⟨after, -, hs⟩ := exists_of_token h hc
  rw [hs]
  rfl

variable (hs : skipBlanks cs = skipBlanks s)
include hs

/-- A token is taken, also with other blanks in front. -/
theorem take?_of_token (token : String) {more : List Char} (htoken : token.toList = c :: more)
    (hc : isBlank c = false) (h : Grammar.token (c :: more) s r) :
    ∃ rest, take? token cs = some rest ∧ skipBlanks rest = skipBlanks r := by
  obtain ⟨after, hafter, hskip⟩ := exists_of_token h hc
  refine ⟨after ++ r, ?_, skipBlanks_of_blanks hafter r⟩
  rw [take?, hs, hskip, htoken, dropToken?_eq_some]
  rfl

omit hs in
/-- Only the first character decides here that a token is not next. -/
theorem take?_of_head {token : String} {more : List Char} (htoken : token.toList = c :: more)
    (h : (skipBlanks cs).head? ≠ some c) : take? token cs = none := by
  rw [Option.eq_none_iff_forall_ne_some]
  intro rest htake
  rw [take?, htoken, dropToken?_eq_some] at htake
  apply h
  rw [htake]
  rfl

/-- A token of one character is not the start of two of them. -/
theorem take?_double {double : String} (hdouble : double.toList = [c, c])
    (hc : isBlank c = false) (h : Grammar.token [c] s r) (hr : (skipBlanks r).head? ≠ some c) :
    take? double cs = none := by
  obtain ⟨after, hafter, hskip⟩ := exists_of_token h hc
  rw [Option.eq_none_iff_forall_ne_some]
  intro rest htake
  rw [take?, hs, hskip, hdouble, dropToken?_eq_some] at htake
  have hrest : after ++ r = c :: rest := (List.cons.inj htake).2
  apply hr
  apply head?_skipBlanks_append hafter hc
  rw [hrest]
  rfl

omit hs

/-! ### Names -/

theorem startsName_iff : Grammar.StartsName c ↔ isNameStart c := by
  simp [Grammar.StartsName, isNameStart]

theorem goesOnName_iff : Grammar.GoesOnName c ↔ isNameChar c := by
  simp [Grammar.GoesOnName, isNameChar, or_assoc]

theorem isBlank_of_goesOnName (h : Grammar.GoesOnName c) : isBlank c = false := by
  rw [Bool.eq_false_iff]
  intro hblank
  rw [isBlank_iff] at hblank
  rw [goesOnName_iff] at h
  simp only [List.mem_cons, List.not_mem_nil, or_false] at hblank
  rcases hblank with rfl | rfl | rfl | rfl | rfl <;> exact absurd h (by decide)

/-- Where the text goes on with no name, a name is as long as it can be. -/
theorem name_of_token (hn : Grammar.IsName n) (h : Grammar.token n.toList s r)
    (hr : ∀ c ∈ (skipBlanks r).head?, ¬Grammar.GoesOnName c) : Grammar.name n s r := by
  obtain ⟨before, after, hbefore, hafter, rfl⟩ := h
  refine ⟨hn, before, after, hbefore, hafter, rfl, ?_⟩
  intro c hc hgoes
  exact hr c (head?_skipBlanks_append hafter (isBlank_of_goesOnName hgoes) hc) hgoes

theorem exists_of_readsName (h : ReadsName cs n rest) :
    Grammar.IsName n ∧ (∃ before, Grammar.Blanks before ∧ cs = before ++ (n.toList ++ rest)) ∧
      ∀ c ∈ rest.head?, ¬Grammar.GoesOnName c := by
  obtain ⟨c, more, hname, hstart, hall⟩ := chars_of_readsName h
  rw [ReadsName, readName?_val, Option.map_eq_some_iff] at h
  obtain ⟨_, -, hread⟩ := h
  obtain ⟨rfl, rfl⟩ := Prod.mk.inj hread
  refine ⟨⟨c, more, hname, startsName_iff.mpr hstart, ?_⟩, ?_, ?_⟩
  · intro d hd
    apply goesOnName_iff.mpr
    apply hall
    rw [hname]
    exact List.mem_cons_of_mem c hd
  · rw [String.toList_ofList, List.takeWhile_append_dropWhile]
    exact exists_blanks cs
  · intro d hd hgoes
    have hnot := List.head?_dropWhile_not isNameChar (skipBlanks cs)
    rw [Option.mem_def.mp hd] at hnot
    rw [goesOnName_iff] at hgoes
    simp [hgoes] at hnot

/-- The blanks behind a name may be left or taken. -/
theorem name_of_readsName (h : ReadsName cs n rest) :
    Grammar.name n cs rest ∧ Grammar.name n cs (skipBlanks rest) := by
  obtain ⟨hn, ⟨before, hbefore, hcs⟩, hrest⟩ := exists_of_readsName h
  obtain ⟨after, hafter, heq⟩ := exists_blanks rest
  constructor
  · exact ⟨hn, before, [], hbefore, blanks_nil, hcs, hrest⟩
  · refine ⟨hn, before, after, hbefore, hafter, ?_, ?_⟩
    · rw [← heq]
      exact hcs
    · rw [← heq]
      exact hrest

theorem token_of_name (h : Grammar.name n s r) : Grammar.token n.toList s r := by
  obtain ⟨-, before, after, hbefore, hafter, hs, -⟩ := h
  exact ⟨before, after, hbefore, hafter, hs⟩

theorem head?_of_name (h : Grammar.name n s r) :
    ∃ c, (skipBlanks s).head? = some c ∧ isNameStart c := by
  obtain ⟨c, more, hn, hstart, -⟩ := h.1
  have htoken := token_of_name h
  rw [hn] at htoken
  rw [startsName_iff] at hstart
  exact ⟨c, head?_of_token htoken (not_isBlank_of_isNameStart hstart), hstart⟩

/-- A name is read, also with other blanks in front. -/
theorem readsName_of_name (hs : skipBlanks cs = skipBlanks s) (h : Grammar.name n s r) :
    ∃ rest, ReadsName cs n rest ∧ skipBlanks rest = skipBlanks r := by
  obtain ⟨⟨c, more, hn, hstart, hmore⟩, before, after, hbefore, hafter, rfl, hend⟩ := h
  rw [startsName_iff] at hstart
  have hskip : skipBlanks cs = n.toList ++ (after ++ r) := by
    rw [hs, skipBlanks_of_blanks hbefore, hn]
    exact skipBlanks_of_head (not_isBlank_of_isNameStart hstart) rfl
  have hall : ∀ d ∈ n.toList, isNameChar d := by
    rw [hn, List.forall_mem_cons]
    exact ⟨isNameChar_of_isNameStart hstart, fun d hd => goesOnName_iff.mp (hmore d hd)⟩
  have hstop : ∀ d ∈ (after ++ r).head?, isNameChar d = false := by
    intro d hd
    have hgoes := hend d hd
    rwa [goesOnName_iff, Bool.not_eq_true] at hgoes
  obtain ⟨htake, hdrop⟩ := Text.span_append hall hstop
  refine ⟨after ++ r, ?_, skipBlanks_of_blanks hafter r⟩
  have hhead : (n.toList ++ (after ++ r)).head? = some c := by rw [hn]; rfl
  rw [ReadsName, readName?_val, hskip, hhead, Option.filter_some_pos hstart, Option.map_some,
    htake, hdrop, String.ofList_toList]

theorem readsName_unique {n' : String} {rest' : List Char} (h : ReadsName cs n rest)
    (h' : ReadsName cs n' rest') : n = n' ∧ rest = rest' :=
  Prod.mk.inj (Option.some.inj (h.symm.trans h'))

/-! ### What the readers take is of the grammar -/

theorem ofFunction?_eq_some {test : NodeTest} :
    NodeTest.ofFunction? n = some test ↔ (n, test) ∈ Grammar.functions := by
  rw [NodeTest.ofFunction?.eq_def]
  split <;> simp_all [Grammar.functions, eq_comm]

theorem ofName?_eq_some {axis : Axis} :
    Axis.ofName? n = some axis ↔ (n, axis) ∈ Grammar.axes := by
  rw [Axis.ofName?.eq_def]
  split <;> simp_all [Grammar.axes, eq_comm]

theorem test_of_reads {test : NodeTest} (h : Reads (readTest cs) test rest) :
    Grammar.Test test cs rest := by
  rw [reads_readTest] at h
  rcases h with ⟨hstar, rfl⟩ | ⟨-, n, after, hname, h⟩
  · exact .wildcard (token_of_take? hstar)
  rcases h with ⟨hopen, rfl, rfl⟩ | ⟨inside, hopen, hclose, htest⟩
  · refine .name (name_of_readsName hname).2 ?_
    rintro ⟨inside, hinside⟩
    obtain ⟨rest, htake, -⟩ :=
      take?_of_token (skipBlanks_skipBlanks after).symm "(" rfl rfl hinside
    rw [hopen] at htake
    cases htake
  · exact .function (ofFunction?_eq_some.mp htest) (token_of_name (name_of_readsName hname).1)
      (token_of_take? hopen) (token_of_take? hclose)

theorem lead_of_reads {axis : Axis} (h : Reads (readAxis cs) axis rest) :
    Grammar.Lead axis cs rest := by
  rw [reads_readAxis] at h
  rcases h with ⟨hat, rfl⟩ | ⟨-, ⟨-, rfl, rfl⟩ | ⟨n, after, hname, hcolons, haxis⟩⟩
  · exact .at (token_of_take? hat)
  · exact .none
  · exact .axis (ofName?_eq_some.mp haxis) (token_of_name (name_of_readsName hname).1)
      (token_of_take? hcolons)

theorem literal_of_reads {value : String} (h : Reads (readLiteral cs) value rest) :
    ∃ q, (q = '\x27' ∨ q = '\x22') ∧ q ∉ value.toList ∧
      Grammar.token (q :: (value.toList ++ [q])) cs rest := by
  obtain ⟨q, inside, q', hskip, hq, hclose, rfl⟩ := reads_readLiteral.mp h
  obtain ⟨before, hbefore, hcs⟩ := exists_blanks cs
  have hsplit := inside.takeWhile_append_dropWhile (p := (· ≠ q))
  have hq' : q' = q := by
    have hnot := List.head?_dropWhile_not (· ≠ q) inside
    rw [hclose] at hnot
    simpa using hnot
  subst hq'
  rw [String.toList_ofList]
  refine ⟨q', hq, ?_, before, [], hbefore, blanks_nil, ?_⟩
  · intro hmem
    simpa using List.mem_takeWhile_imp hmem
  · rw [hclose] at hsplit
    rw [hskip, ← hsplit] at hcs
    simpa using hcs

theorem position_of_readIndex {k : Nat}
    (hne : (skipBlanks cs).takeWhile Char.isDigit ≠ [])
    (h : readIndex ((skipBlanks cs).takeWhile Char.isDigit) = .ok k) :
    Grammar.Condition (.position k) cs ((skipBlanks cs).dropWhile Char.isDigit) := by
  have hall : ∀ c ∈ (skipBlanks cs).takeWhile Char.isDigit, c.isDigit :=
    fun _ hc => List.mem_takeWhile_imp hc
  obtain ⟨before, hbefore, hcs⟩ := exists_blanks cs
  have hsplit := (skipBlanks cs).takeWhile_append_dropWhile (p := Char.isDigit)
  rw [readIndex_digits hne hall] at h
  split at h
  · rename_i hlt
    cases h
    refine .position hne hall hlt ⟨before, [], hbefore, blanks_nil, ?_⟩
    rw [List.nil_append, hsplit]
    exact hcs
  · cases h

theorem condition_of_reads {condition : Condition} (h : Reads (readCondition cs) condition rest) :
    Grammar.Condition condition cs rest := by
  rw [reads_readCondition] at h
  rcases h with ⟨hne, k, hindex, rfl, rfl⟩ | ⟨-, ⟨hlast, rfl⟩ | ⟨-, after, hat, h⟩⟩
  · exact position_of_readIndex hne hindex
  · exact .last (token_of_take? hlast)
  obtain ⟨n, behind, hname, h⟩ := reads_readAttributeCondition.mp h
  rcases h with ⟨-, rfl, rfl⟩ | ⟨text, value, hequals, hvalue, rfl⟩
  · exact .hasAttribute (token_of_take? hat) (name_of_readsName hname).1
  · obtain ⟨q, hq, hnot, hliteral⟩ := literal_of_reads hvalue
    exact .attributeEquals (token_of_take? hat) (name_of_readsName hname).1
      (token_of_take? hequals) hq hnot hliteral

theorem conditions_of_reads {conditions : List Condition}
    (h : Reads (readConditions cs) conditions rest) : Grammar.Conditions conditions cs rest := by
  induction conditions generalizing cs with
  | nil =>
    rw [reads_readConditions] at h
    rcases h with ⟨-, -, rfl⟩ | ⟨_, _, _, _, _, -, -, -, -, heq⟩
    · exact .nil
    · cases heq
  | cons condition conditions ih =>
    rw [reads_readConditions] at h
    rcases h with ⟨-, heq, -⟩ | ⟨inside, _, behind, after, _, hopen, hfirst, hclose, hothers, heq⟩
    · cases heq
    · cases heq
      exact .cons (token_of_take? hopen) (condition_of_reads hfirst) (token_of_take? hclose)
        (ih hothers)

theorem step_of_reads {step : Step} (h : Reads (readStep cs) step rest) :
    Grammar.Step step cs rest := by
  rw [reads_readStep] at h
  rcases h with ⟨hparent, rfl⟩ | ⟨-, ⟨hself, rfl⟩ |
    ⟨-, axis, behind, test, after, conditions, haxis, htest, hconditions, rfl⟩⟩
  · exact .parent (token_of_take? hparent)
  · exact .self (token_of_take? hself)
  · exact .full (lead_of_reads haxis) (test_of_reads htest) (conditions_of_reads hconditions)

theorem steps_of_readSteps {steps : List Step} (h : readSteps cs = .ok steps) :
    Grammar.Steps steps cs := by
  -- By the number of steps; a double slash takes two of them.
  induction hn : steps.length using Nat.strongRecOn generalizing cs steps with
  | ind n ih =>
  subst hn
  obtain ⟨step, rest, hstep, h⟩ := readSteps_eq_ok.mp h
  rcases h with ⟨after, others, hdouble, hothers, rfl⟩ |
    ⟨-, ⟨after, others, hsingle, hothers, rfl⟩ | ⟨-, hblank, rfl⟩⟩
  · exact .slashes (step_of_reads hstep) (token_of_take? hdouble)
      (ih others.length (by simp only [List.length_cons]; omega) hothers rfl)
  · exact .slash (step_of_reads hstep) (token_of_take? hsingle)
      (ih others.length (by simp only [List.length_cons]; omega) hothers rfl)
  · exact .last (step_of_reads hstep) (blanks_iff.mpr hblank)

theorem path_of_readPath {text : String} {path : Path} (h : readPath text = .ok path) :
    Grammar.Path path text.toList := by
  rw [readPath_eq_ok] at h
  rcases h with ⟨rest, steps, hdouble, hsteps, rfl⟩ | ⟨-, ⟨rest, hsingle, h⟩ | ⟨-, h⟩⟩
  · exact .anywhere (token_of_take? hdouble) (steps_of_readSteps hsteps)
  · rcases h with ⟨hblank, rfl⟩ | ⟨-, steps, hsteps, rfl⟩
    · exact .root (token_of_take? hsingle) (blanks_iff.mpr hblank)
    · exact .absolute (token_of_take? hsingle) (steps_of_readSteps hsteps)
  · obtain ⟨steps, hsteps, rfl⟩ := h
    exact .relative (steps_of_readSteps hsteps)

end XPath

end DocQuery
