import DocQuery.Proofs.XPath.Derivation

/-! Reading a path accepts the grammar and nothing else.  The readers do not see the blanks in front:
on a text of a construct, and on any that differs from it by blanks in front, a reader takes what the
text stands for and leaves what follows, up to blanks again. -/

namespace DocQuery

namespace XPath

variable {s m r cs : List Char} {c : Char} {n : String}

/-- The reading takes the value and leaves the text, or one that differs by blanks in front. -/
def Takes {P : α × List Char → Prop} (reading : Reading { r // P r }) (a : α) (r : List Char) :
    Prop :=
  ∃ rest, Reads reading a rest ∧ skipBlanks rest = skipBlanks r

theorem token_congr {token : List Char} (hs : skipBlanks cs = skipBlanks s)
    (h : Grammar.token (c :: token) s r) (hc : isBlank c = false) :
    Grammar.token (c :: token) cs r := by
  obtain ⟨after, hafter, hskip⟩ := exists_of_token h hc
  obtain ⟨before, hbefore, hcs⟩ := exists_blanks cs
  refine ⟨before, after, hbefore, hafter, ?_⟩
  rw [hs, hskip] at hcs
  exact hcs

/-! ### Node tests and axes -/

theorem isName_of_readsName (h : ReadsName n.toList n []) : Grammar.IsName n :=
  (exists_of_readsName h).1

theorem isName_of_mem_functions {test : NodeTest} (h : (n, test) ∈ Grammar.functions) :
    Grammar.IsName n := by
  simp only [Grammar.functions, List.mem_cons, Prod.mk.injEq, List.not_mem_nil, or_false] at h
  rcases h with ⟨rfl, -⟩ | ⟨rfl, -⟩ | ⟨rfl, -⟩ <;> exact isName_of_readsName rfl

theorem isName_of_mem_axes {axis : Axis} (h : (n, axis) ∈ Grammar.axes) : Grammar.IsName n := by
  simp only [Grammar.axes, List.mem_cons, Prod.mk.injEq, List.not_mem_nil, or_false] at h
  rcases h with ⟨rfl, -⟩ | ⟨rfl, -⟩ | ⟨rfl, -⟩ | ⟨rfl, -⟩ | ⟨rfl, -⟩ | ⟨rfl, -⟩ <;>
    exact isName_of_readsName rfl

/-- A name with a token behind it that is no part of a name. -/
theorem name_before_token {token : List Char} (hn : Grammar.IsName n)
    (h : Grammar.token n.toList s m) (hm : Grammar.token (c :: token) m r)
    (hblank : isBlank c = false) (hgoes : ¬Grammar.GoesOnName c) : Grammar.name n s m := by
  apply name_of_token hn h
  intro d hd
  rw [head?_of_token hm hblank] at hd
  obtain rfl := Option.some.inj hd
  exact hgoes

theorem head?_ne_of_name (h : Grammar.name n s r) (hc : isNameStart c = false) :
    (skipBlanks s).head? ≠ some c := by
  obtain ⟨d, hd, hstart⟩ := head?_of_name h
  rw [hd]
  rintro ⟨⟩
  rw [hc] at hstart
  cases hstart

/-- A token that starts like no name is not taken where a name stands. -/
theorem take?_of_name {token : String} {more : List Char} (hs : skipBlanks cs = skipBlanks s)
    (h : Grammar.name n s r) (htoken : token.toList = c :: more) (hc : isNameStart c = false) :
    take? token cs = none := by
  apply take?_of_head htoken
  rw [hs]
  exact head?_ne_of_name h hc

theorem takes_of_test {test : NodeTest} (hs : skipBlanks cs = skipBlanks s)
    (h : Grammar.Test test s r) : Takes (readTest cs) test r := by
  cases h with
  | wildcard hstar =>
    obtain ⟨rest, htake, hrest⟩ := take?_of_token hs "*" rfl rfl hstar
    exact ⟨rest, reads_readTest.mpr (.inl ⟨htake, rfl⟩), hrest⟩
  | @name n _ _ hname hopen =>
    obtain ⟨rest, hread, hrest⟩ := readsName_of_name hs hname
    have hstar : take? "*" cs = none := take?_of_name hs hname rfl rfl
    have hopen' : take? "(" rest = none := by
      rw [Option.eq_none_iff_forall_ne_some]
      intro inside htake
      exact hopen ⟨inside, token_congr hrest.symm (token_of_take? htake) rfl⟩
    refine ⟨skipBlanks rest, ?_, ?_⟩
    · exact reads_readTest.mpr (.inr ⟨hstar, n, rest, hread, .inl ⟨hopen', rfl, rfl⟩⟩)
    · rw [skipBlanks_skipBlanks, hrest]
  | @function n _ _ m inside _ htest hn hopen hclose =>
    have hname := name_before_token (isName_of_mem_functions htest) hn hopen rfl (by decide)
    obtain ⟨after, hread, hafter⟩ := readsName_of_name hs hname
    have hstar : take? "*" cs = none := take?_of_name hs hname rfl rfl
    obtain ⟨inside', hopen', hinside⟩ := take?_of_token hafter "(" rfl rfl hopen
    obtain ⟨rest, hclose', hrest⟩ := take?_of_token hinside ")" rfl rfl hclose
    refine ⟨rest, ?_, hrest⟩
    exact reads_readTest.mpr (.inr ⟨hstar, n, after, hread,
      .inr ⟨inside', hopen', hclose', ofFunction?_eq_some.mpr htest⟩⟩)

theorem head?_of_test {test : NodeTest} (h : Grammar.Test test s r) :
    ∃ c, (skipBlanks s).head? = some c ∧ (c = '*' ∨ isNameStart c) := by
  cases h with
  | wildcard hstar => exact ⟨'*', head?_of_token hstar rfl, .inl rfl⟩
  | name hname _ =>
    obtain ⟨c, hc, hstart⟩ := head?_of_name hname
    exact ⟨c, hc, .inr hstart⟩
  | function htest hn hopen hclose =>
    obtain ⟨c, hc, hstart⟩ := head?_of_name
      (name_before_token (isName_of_mem_functions htest) hn hopen rfl (by decide))
    exact ⟨c, hc, .inr hstart⟩

/-- The name of a node test is not taken for the name of an axis. -/
theorem take?_colons_of_test {test : NodeTest} (hs : skipBlanks cs = skipBlanks s)
    (h : Grammar.Test test s r) (hr : (skipBlanks r).head? ≠ some ':') {after : List Char}
    (hread : ReadsName cs n after) : take? "::" after = none := by
  apply take?_of_head rfl
  cases h with
  | wildcard hstar =>
    have hne := head?_ne_of_name (name_of_readsName hread).1 (c := '*') rfl
    rw [hs] at hne
    exact absurd (head?_of_token hstar rfl) hne
  | name hname _ =>
    obtain ⟨after', hread', hafter⟩ := readsName_of_name hs hname
    obtain ⟨-, rfl⟩ := readsName_unique hread hread'
    rw [hafter]
    exact hr
  | function htest hn hopen hclose =>
    have hname := name_before_token (isName_of_mem_functions htest) hn hopen rfl (by decide)
    obtain ⟨after', hread', hafter⟩ := readsName_of_name hs hname
    obtain ⟨-, rfl⟩ := readsName_unique hread hread'
    rw [hafter, head?_of_token hopen rfl]
    decide

theorem takes_of_lead {axis : Axis} {test : NodeTest} (hs : skipBlanks cs = skipBlanks s)
    (h : Grammar.Lead axis s m) (htest : Grammar.Test test m r)
    (hr : (skipBlanks r).head? ≠ some ':') : Takes (readAxis cs) axis m := by
  cases h with
  | none =>
    have hat : take? "@" cs = none := by
      apply take?_of_head rfl
      obtain ⟨c, hc, hstart⟩ := head?_of_test htest
      rw [hs, hc]
      rintro ⟨⟩
      exact absurd hstart (by decide)
    refine ⟨cs, ?_, hs⟩
    -- The name of the test is read for an axis first, and given back as no colons follow.
    refine reads_readAxis.mpr (.inr ⟨hat, .inl ⟨?_, rfl, rfl⟩⟩)
    intro n after hread
    exact take?_colons_of_test hs htest hr hread
  | «at» hat =>
    obtain ⟨rest, htake, hrest⟩ := take?_of_token hs "@" rfl rfl hat
    exact ⟨rest, reads_readAxis.mpr (.inl ⟨htake, rfl⟩), hrest⟩
  | @axis n _ _ m' _ haxis hn hcolons =>
    have hname := name_before_token (isName_of_mem_axes haxis) hn hcolons rfl (by decide)
    obtain ⟨after, hread, hafter⟩ := readsName_of_name hs hname
    have hat : take? "@" cs = none := take?_of_name hs hname rfl rfl
    obtain ⟨rest, htake, hrest⟩ := take?_of_token hafter "::" rfl rfl hcolons
    refine ⟨rest, ?_, hrest⟩
    exact reads_readAxis.mpr (.inr ⟨hat, .inr ⟨n, after, hread, htake, ofName?_eq_some.mpr haxis⟩⟩)

/-! ### Conditions -/

/-- Digits are taken as far as they go. -/
theorem digits_of_token {digits : List Char} (hs : skipBlanks cs = skipBlanks s)
    (hne : digits ≠ []) (hdigits : ∀ c ∈ digits, c.isDigit) (h : Grammar.token digits s r)
    (hr : ∀ c ∈ (skipBlanks r).head?, c.isDigit = false) :
    ∃ rest, (skipBlanks cs).takeWhile Char.isDigit = digits ∧
      (skipBlanks cs).dropWhile Char.isDigit = rest ∧ skipBlanks rest = skipBlanks r := by
  have hblank : ∀ c : Char, c.isDigit → isBlank c = false := by
    intro c hc
    apply isBlank_of_goesOnName
    left
    simp [Char.isAlphanum, hc]
  obtain ⟨before, after, hbefore, hafter, rfl⟩ := h
  have hskip : skipBlanks cs = digits ++ (after ++ r) := by
    rw [hs, skipBlanks_of_blanks hbefore]
    obtain ⟨c, more, rfl⟩ := List.exists_cons_of_ne_nil hne
    exact skipBlanks_of_head (hblank c (hdigits c List.mem_cons_self)) rfl
  have hstop : ∀ c ∈ (after ++ r).head?, c.isDigit = false := by
    intro c hc
    by_contra hdigit
    rw [Bool.not_eq_false] at hdigit
    have hend := hr c (head?_skipBlanks_append hafter (hblank c hdigit) hc)
    rw [hdigit] at hend
    cases hend
  rw [hskip]
  obtain ⟨htake, hdrop⟩ := Text.span_append hdigits hstop
  exact ⟨after ++ r, htake, hdrop, skipBlanks_of_blanks hafter r⟩

theorem takeWhile_of_head {p : Char → Bool} (h : cs.head? = some c) (hc : p c = false) :
    cs.takeWhile p = [] := by
  obtain ⟨more, rfl⟩ := List.head?_eq_some_iff.mp h
  exact List.takeWhile_cons_of_neg (by simp [hc])

theorem takes_of_literal {q : Char} {value : String} (hs : skipBlanks cs = skipBlanks s)
    (hq : q = '\x27' ∨ q = '\x22') (hnot : q ∉ value.toList)
    (h : Grammar.token (q :: (value.toList ++ [q])) s r) : Takes (readLiteral cs) value r := by
  have hblank : isBlank q = false := by
    rcases hq with rfl | rfl <;> rfl
  obtain ⟨after, hafter, hskip⟩ := exists_of_token h hblank
  have hread := readLiteral_quoted hq hnot (after ++ r)
  refine ⟨after ++ r, ?_, skipBlanks_of_blanks hafter r⟩
  rw [reads_readLiteral] at hread ⊢
  rw [hs, hskip, List.append_assoc, List.singleton_append]
  rwa [skipBlanks_of_head hblank rfl] at hread

/-- A condition on an attribute, its at sign included. -/
theorem reads_attributeCondition {condition : Condition} {after rest : List Char}
    (hat : take? "@" cs = some after) (h : Reads (readAttributeCondition after) condition rest) :
    Reads (readCondition cs) condition rest := by
  have hhead : (skipBlanks cs).head? = some '@' := head?_of_token (token_of_take? hat) rfl
  have hlast : take? "last()" cs = none := by
    apply take?_of_head rfl
    rw [hhead]
    decide
  exact reads_readCondition.mpr
    (.inr ⟨takeWhile_of_head hhead rfl, .inr ⟨hlast, after, hat, h⟩⟩)

theorem takes_of_condition {condition : Condition} (hs : skipBlanks cs = skipBlanks s)
    (h : Grammar.Condition condition s r) (hr : (skipBlanks r).head? = some ']') :
    Takes (readCondition cs) condition r := by
  cases h with
  | @position digits _ _ hne hdigits hlt htoken =>
    have hend : ∀ c ∈ (skipBlanks r).head?, c.isDigit = false := by
      rw [hr]
      rintro _ ⟨⟩
      rfl
    obtain ⟨rest, htake, hdrop, hrest⟩ := digits_of_token hs hne hdigits htoken hend
    refine ⟨rest, reads_readCondition.mpr (.inl ?_), hrest⟩
    rw [htake]
    refine ⟨hne, _, ?_, rfl, hdrop⟩
    rw [readIndex_digits hne hdigits, if_pos hlt]
  | last hlast =>
    have hhead : (skipBlanks s).head? = some 'l' := head?_of_token hlast rfl
    obtain ⟨rest, htake, hrest⟩ := take?_of_token hs "last()" rfl rfl hlast
    refine ⟨rest, reads_readCondition.mpr (.inr ⟨?_, .inl ⟨htake, rfl⟩⟩), hrest⟩
    rw [hs]
    exact takeWhile_of_head hhead rfl
  | @hasAttribute n _ m _ hat hname =>
    obtain ⟨after, hat', hafter⟩ := take?_of_token hs "@" rfl rfl hat
    obtain ⟨rest, hread, hrest⟩ := readsName_of_name hafter hname
    have hequals : take? "=" rest = none := by
      apply take?_of_head rfl
      rw [hrest, hr]
      decide
    refine ⟨rest, reads_attributeCondition hat' ?_, hrest⟩
    exact reads_readAttributeCondition.mpr ⟨n, rest, hread, .inl ⟨hequals, rfl, rfl⟩⟩
  | @attributeEquals n value q _ m behind m' _ hat hname hequals hq hnot hliteral =>
    obtain ⟨after, hat', hafter⟩ := take?_of_token hs "@" rfl rfl hat
    obtain ⟨behind', hread, hbehind⟩ := readsName_of_name hafter hname
    obtain ⟨m'', hequals', hm⟩ := take?_of_token hbehind "=" rfl rfl hequals
    obtain ⟨rest, hvalue, hrest⟩ := takes_of_literal hm hq hnot hliteral
    refine ⟨rest, reads_attributeCondition hat' ?_, hrest⟩
    exact reads_readAttributeCondition.mpr
      ⟨n, behind', hread, .inr ⟨m'', value, hequals', hvalue, rfl⟩⟩

/-- What follows a step is a slash or the end. -/
def Ends (r : List Char) : Prop := ∀ c ∈ (skipBlanks r).head?, c = '/'

theorem Ends.head?_ne (h : Ends r) (hc : c ≠ '/') : (skipBlanks r).head? ≠ some c :=
  fun hhead => hc (h c hhead)

theorem takes_of_conditions {conditions : List Condition} (hs : skipBlanks cs = skipBlanks s)
    (h : Grammar.Conditions conditions s r) (hr : Ends r) :
    Takes (readConditions cs) conditions r := by
  induction h generalizing cs with
  | nil =>
    have hopen : take? "[" cs = none := by
      apply take?_of_head rfl
      rw [hs]
      exact hr.head?_ne (by decide)
    exact ⟨cs, reads_readConditions.mpr (.inl ⟨hopen, rfl, rfl⟩), hs⟩
  | cons hopen hfirst hclose _ ih =>
    obtain ⟨inside, hopen', hinside⟩ := take?_of_token hs "[" rfl rfl hopen
    obtain ⟨behind, hfirst', hbehind⟩ :=
      takes_of_condition hinside hfirst (head?_of_token hclose rfl)
    obtain ⟨after, hclose', hafter⟩ := take?_of_token hbehind "]" rfl rfl hclose
    obtain ⟨rest, hothers, hrest⟩ := ih hafter hr
    refine ⟨rest, reads_readConditions.mpr (.inr ?_), hrest⟩
    exact ⟨inside, _, behind, after, _, hopen', hfirst', hclose', hothers, rfl⟩

theorem head?_ne_of_conditions {conditions : List Condition}
    (h : Grammar.Conditions conditions s r) (hr : Ends r) : (skipBlanks s).head? ≠ some ':' := by
  cases h with
  | nil => exact hr.head?_ne (by decide)
  | cons hopen _ _ _ =>
    rw [head?_of_token hopen rfl]
    decide

/-! ### Steps and paths -/

/-- A step that is not written with dots starts with none. -/
theorem head?_of_full {axis : Axis} {test : NodeTest} (h : Grammar.Lead axis s m)
    (htest : Grammar.Test test m r) :
    ∃ c, (skipBlanks s).head? = some c ∧ c ≠ '.' ∧ c ≠ '/' := by
  have hne : ∀ c, c = '*' ∨ isNameStart c → c ≠ '.' ∧ c ≠ '/' := by
    intro c hc
    constructor <;> rintro rfl <;> exact absurd hc (by decide)
  cases h with
  | none =>
    obtain ⟨c, hc, hstart⟩ := head?_of_test htest
    exact ⟨c, hc, hne c hstart⟩
  | «at» hat => exact ⟨'@', head?_of_token hat rfl, by decide, by decide⟩
  | axis haxis hn hcolons =>
    obtain ⟨c, hc, hstart⟩ := head?_of_name
      (name_before_token (isName_of_mem_axes haxis) hn hcolons rfl (by decide))
    exact ⟨c, hc, hne c (.inr hstart)⟩

theorem head?_of_step {step : Step} (h : Grammar.Step step s r) :
    ∃ c, (skipBlanks s).head? = some c ∧ c ≠ '/' := by
  cases h with
  | parent hparent => exact ⟨'.', head?_of_token hparent rfl, by decide⟩
  | self hself => exact ⟨'.', head?_of_token hself rfl, by decide⟩
  | full hlead htest _ =>
    obtain ⟨c, hc, -, hslash⟩ := head?_of_full hlead htest
    exact ⟨c, hc, hslash⟩

theorem head?_of_steps {steps : List Step} (h : Grammar.Steps steps s) :
    ∃ c, (skipBlanks s).head? = some c ∧ c ≠ '/' := by
  cases h with
  | last hstep _ => exact head?_of_step hstep
  | slash hstep _ _ => exact head?_of_step hstep
  | slashes hstep _ _ => exact head?_of_step hstep

theorem head?_ne_of_steps {steps : List Step} (h : Grammar.Steps steps s) :
    (skipBlanks s).head? ≠ some '/' := by
  obtain ⟨c, hc, hne⟩ := head?_of_steps h
  rw [hc]
  rintro ⟨⟩
  exact hne rfl

theorem takes_of_step {step : Step} (hs : skipBlanks cs = skipBlanks s)
    (h : Grammar.Step step s r) (hr : Ends r) : Takes (readStep cs) step r := by
  cases h with
  | parent hparent =>
    obtain ⟨rest, htake, hrest⟩ := take?_of_token hs ".." rfl rfl hparent
    exact ⟨rest, reads_readStep.mpr (.inl ⟨htake, rfl⟩), hrest⟩
  | self hself =>
    obtain ⟨rest, htake, hrest⟩ := take?_of_token hs "." rfl rfl hself
    have hparent : take? ".." cs = none := take?_double hs rfl rfl hself (hr.head?_ne (by decide))
    exact ⟨rest, reads_readStep.mpr (.inr ⟨hparent, .inl ⟨htake, rfl⟩⟩), hrest⟩
  | full hlead htest hconditions =>
    have hdot : (skipBlanks cs).head? ≠ some '.' := by
      obtain ⟨c, hc, hne, -⟩ := head?_of_full hlead htest
      rw [hs, hc]
      rintro ⟨⟩
      exact hne rfl
    obtain ⟨behind, haxis, hbehind⟩ :=
      takes_of_lead hs hlead htest (head?_ne_of_conditions hconditions hr)
    obtain ⟨after, htest', hafter⟩ := takes_of_test hbehind htest
    obtain ⟨rest, hconditions', hrest⟩ := takes_of_conditions hafter hconditions hr
    refine ⟨rest, reads_readStep.mpr (.inr ⟨take?_of_head rfl hdot, .inr ?_⟩), hrest⟩
    exact ⟨take?_of_head rfl hdot, _, behind, _, after, _, haxis, htest', hconditions', rfl⟩

theorem ends_of_token {token : List Char} (h : Grammar.token ('/' :: token) s r) : Ends s := by
  intro c hc
  rw [head?_of_token h rfl] at hc
  exact (Option.some.inj hc).symm

theorem readSteps_of_steps {steps : List Step} (hs : skipBlanks cs = skipBlanks s)
    (h : Grammar.Steps steps s) : readSteps cs = .ok steps := by
  -- Over the derivation, for any blanks in front: a token read before may have left some or none.
  induction h generalizing cs with
  | @last step s r hstep hblank =>
    rw [blanks_iff] at hblank
    have hr : Ends r := by
      intro c hc
      rw [hblank] at hc
      cases hc
    obtain ⟨rest, hread, hrest⟩ := takes_of_step hs hstep hr
    rw [hblank] at hrest
    refine readSteps_eq_ok.mpr ⟨step, rest, hread, .inr ⟨?_, .inr ⟨?_, hrest, rfl⟩⟩⟩
    · exact take?_of_blank hrest (by decide)
    · exact take?_of_blank hrest (by decide)
  | @slash step steps s m r hstep hslash hsteps ih =>
    obtain ⟨rest, hread, hrest⟩ := takes_of_step hs hstep (ends_of_token hslash)
    obtain ⟨after, htake, hafter⟩ := take?_of_token hrest "/" rfl rfl hslash
    have hdouble : take? "//" rest = none :=
      take?_double hrest rfl rfl hslash (head?_ne_of_steps hsteps)
    exact readSteps_eq_ok.mpr
      ⟨step, rest, hread, .inr ⟨hdouble, .inl ⟨after, steps, htake, ih hafter, rfl⟩⟩⟩
  | @slashes step steps s m r hstep hslashes _ ih =>
    obtain ⟨rest, hread, hrest⟩ := takes_of_step hs hstep (ends_of_token hslashes)
    obtain ⟨after, htake, hafter⟩ := take?_of_token hrest "//" rfl rfl hslashes
    exact readSteps_eq_ok.mpr ⟨step, rest, hread, .inl ⟨after, steps, htake, ih hafter, rfl⟩⟩

theorem readPath_of_path {text : String} {path : Path} (h : Grammar.Path path text.toList) :
    readPath text = .ok path := by
  rw [readPath_eq_ok]
  generalize text.toList = cs at h
  cases h with
  | @root _ r hslash hblank =>
    rw [blanks_iff] at hblank
    obtain ⟨rest, htake, hrest⟩ := take?_of_token rfl "/" rfl rfl hslash
    have hdouble : take? "//" cs = none := by
      apply take?_double rfl rfl rfl hslash
      rw [hblank]
      rintro ⟨⟩
    exact .inr ⟨hdouble, .inl ⟨rest, htake, .inl ⟨hrest.trans hblank, rfl⟩⟩⟩
  | @absolute steps _ r hslash hsteps =>
    obtain ⟨rest, htake, hrest⟩ := take?_of_token rfl "/" rfl rfl hslash
    have hdouble : take? "//" cs = none :=
      take?_double rfl rfl rfl hslash (head?_ne_of_steps hsteps)
    have hread := readSteps_of_steps hrest hsteps
    exact .inr ⟨hdouble, .inl ⟨rest, htake,
      .inr ⟨skipBlanks_ne_nil_of_readSteps hread, steps, hread, rfl⟩⟩⟩
  | @anywhere steps _ r hslashes hsteps =>
    obtain ⟨rest, htake, hrest⟩ := take?_of_token rfl "//" rfl rfl hslashes
    exact .inl ⟨rest, steps, htake, readSteps_of_steps hrest hsteps, rfl⟩
  | @relative steps _ hsteps =>
    have hslash := head?_ne_of_steps hsteps
    exact .inr ⟨take?_of_head rfl hslash, .inr ⟨take?_of_head rfl hslash, steps,
      readSteps_of_steps rfl hsteps, rfl⟩⟩

/-- An absolute path starts with a slash, blanks aside, and no other path does. -/
theorem isAbsolute_iff_of_path {path : Path} (h : Grammar.Path path cs) :
    path.isAbsolute ↔ ∃ blanks more, Grammar.Blanks blanks ∧ cs = blanks ++ '/' :: more := by
  have hslash : ∀ {token r}, Grammar.token ('/' :: token) cs r →
      ∃ blanks more, Grammar.Blanks blanks ∧ cs = blanks ++ '/' :: more := by
    rintro token r ⟨before, after, hbefore, -, hcs⟩
    exact ⟨before, _, hbefore, hcs⟩
  cases h with
  | root hroot _ => exact iff_of_true rfl (hslash hroot)
  | absolute habsolute _ => exact iff_of_true rfl (hslash habsolute)
  | anywhere hanywhere _ => exact iff_of_true rfl (hslash hanywhere)
  | relative hsteps =>
    refine iff_of_false Bool.false_ne_true ?_
    rintro ⟨blanks, more, hblanks, rfl⟩
    apply head?_ne_of_steps hsteps
    rw [skipBlanks_of_blanks hblanks, skipBlanks_of_head (c := '/') rfl rfl]
    rfl

/-- Reading a path accepts exactly the grammar, and gives the path that the text stands for. -/
theorem readPath_accepts_grammar (text : String) :
    (∀ path, readPath text = .ok path ↔ Grammar.Path path text.toList) ∧
    ∀ path, readPath text = .ok path →
      (path.isAbsolute ↔
        ∃ blanks more, Grammar.Blanks blanks ∧ text.toList = blanks ++ '/' :: more) := by
  constructor
  · intro path
    constructor
    · intro h
      exact path_of_readPath h
    · intro h
      exact readPath_of_path h
  · intro path h
    exact isAbsolute_iff_of_path (path_of_readPath h)

end XPath

end DocQuery
