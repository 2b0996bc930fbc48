import DocQuery.Proofs.Url.Reference

/-! Addresses read after their scheme, or after the two slashes in front of a host.  Whatever is
wrong with them, it is never that they need an address they are relative to: that is said exactly of
the texts without scheme.  After an authority stands a path that is written as paths are. -/

namespace DocQuery.Url

/-- A reading gives what has a property, or it fails for another reason than that it needs an
address it is relative to. -/
def Yields {α : Type} (P : α → Prop) : Except UrlError α → Prop
  | .ok a => P a
  | .error e => e ≠ .noBase

section

variable {α β : Type} {P : α → Prop} {Q : β → Prop}

theorem Yields.of_ok {reading : Except UrlError α} {a : α} (h : Yields P reading)
    (hok : reading = .ok a) : P a := by
  subst hok
  exact h

theorem Yields.ne_noBase {reading : Except UrlError α} (h : Yields P reading) :
    reading ≠ .error .noBase := by
  rintro rfl
  exact h rfl

theorem Yields.mono {P' : α → Prop} {reading : Except UrlError α} (h : Yields P reading)
    (hP : ∀ a, P a → P' a) : Yields P' reading := by
  cases reading with
  | error e => exact h
  | ok a => exact hP a h

theorem Yields.bind {reading : Except UrlError α} {rest : α → Except UrlError β}
    (h : Yields P reading) (hrest : ∀ a, P a → Yields Q (rest a)) :
    Yields Q (reading >>= rest) := by
  cases reading with
  | error e => exact h
  | ok a => exact hrest a h

theorem Yields.ite {p : Prop} [Decidable p] {a b : Except UrlError α} (ha : Yields P a)
    (hb : Yields P b) : Yields P (if p then a else b) := by
  split
  · exact ha
  · exact hb

/-- A check before the rest of a reading. -/
theorem Yields.guard {p : Prop} [Decidable p] {e : UrlError} {rest : Except UrlError α}
    (he : e ≠ .noBase) (hrest : Yields P rest) :
    Yields P (if p then (throw e : Except UrlError PUnit) >>= fun _ => rest else rest) :=
  .ite he hrest

end

/-! ### Hosts -/

theorem yields_readIpv4 (name : List Char) : Yields (fun _ => True) (readIpv4 name) := by
  rw [readIpv4]
  split
  · exact UrlError.noConfusion
  · exact .ite UrlError.noConfusion trivial

theorem yields_readIpv6 (cs : List Char) : Yields (fun _ => True) (readIpv6 cs) := by
  rw [readIpv6]
  split
  · trivial
  · exact UrlError.noConfusion

theorem yields_of_bracketed? {cs : List Char} {reading : Except UrlError Host}
    (h : Host.bracketed? cs = some reading) : Yields (fun _ => True) reading := by
  unfold Host.bracketed? at h
  split at h
  · split at h <;> cases h
    · exact yields_readIpv6 _
    · exact UrlError.noConfusion
  · cases h

theorem yields_ofChars (cs : List Char) : Yields (fun _ => True) (Host.ofChars cs) := by
  rw [Host.ofChars]
  split
  · exact yields_of_bracketed? ‹_›
  · split
    · exact .ite UrlError.noConfusion (.ite (yields_readIpv4 _) trivial)
    · exact UrlError.noConfusion

theorem yields_ofOpaque (cs : List Char) : Yields (fun _ => True) (Host.ofOpaque cs) := by
  rw [Host.ofOpaque]
  split
  · exact yields_of_bracketed? ‹_›
  · exact .ite UrlError.noConfusion trivial

theorem yields_readPort (scheme : String) (cs : List Char) :
    Yields (fun _ => True) (readPort scheme cs) := by
  unfold readPort
  split
  · exact .ite UrlError.noConfusion (.ite UrlError.noConfusion trivial)
  · trivial

/-! ### Authorities -/

theorem yields_readAuthority (scheme : String) (cs : List Char) :
    Yields (fun u => ∃ authority rest, u = withPath scheme (some authority) rest)
      (readAuthority scheme cs) := by
  have hrest (host : Host) (user : String) (rest : List Char) :
      Yields (fun u => ∃ authority rest, u = withPath scheme (some authority) rest) (do
        let found ← readPort scheme rest
        return withPath scheme (some { user, host, port := found.1 }) found.2) :=
    (yields_readPort scheme rest).bind fun _ _ => ⟨_, _, rfl⟩
  -- Each check has an error of its own, and what is read behind the last of them is the port.
  rw [readAuthority]
  dsimp only
  refine .guard UrlError.noConfusion (.guard UrlError.noConfusion (.ite ?_ ?_))
  · exact (yields_ofChars _).bind fun host _ => .guard UrlError.noConfusion (hrest host _ _)
  · exact (yields_ofOpaque _).bind fun host _ => .guard UrlError.noConfusion (hrest host _ _)

theorem yields_readFileHost (cs : List Char) : Yields (fun _ => True) (readFileHost cs) := by
  rw [readFileHost]
  exact .ite trivial (.ite trivial ((yields_ofChars _).bind fun _ _ => .ite trivial trivial))

theorem yields_readFile (cs : List Char) : Yields (fun _ => True) (readFile none cs) := by
  cases hcs : skipIgnored cs with
  | nil =>
    simp only [readFile, hcs]
    trivial
  | cons c rest =>
    simp only [readFile, hcs]
    refine .ite ?_ trivial
    split
    · exact .ite (yields_readFileHost _) trivial
    · trivial

/-! ### Whole addresses -/

theorem yields_readAfterScheme (scheme : String) (rest : List Char) :
    Yields (fun _ => True) (readAfterScheme none scheme rest) := by
  have hauthority (cs : List Char) : Yields (fun _ => True) (readAuthority scheme cs) :=
    (yields_readAuthority scheme cs).mono fun _ _ => trivial
  unfold readAfterScheme
  refine .ite (yields_readFile rest) (.ite (hauthority _) ?_)
  split
  · exact hauthority _
  · trivial
  · trivial

/-- An address that it is relative to is missing exactly of a text without scheme. -/
theorem ofText_eq_noBase_iff (text : String) :
    ofText text = .error .noBase ↔ namesScheme text = false := by
  rw [ofText, read, namesScheme]
  cases readScheme? (trimEdges text) with
  | none => simp
  | some named => simpa using (yields_readAfterScheme named.1 named.2).ne_noBase

theorem withPath_eq {scheme : String} (hport : (usualPort scheme).isSome)
    (authority : Option Authority) (cs : List Char) :
    ∃ segments query fragment, withPath scheme authority cs =
      { scheme, authority, path := .segments segments, query, fragment } ∧ Written segments := by
  have hsegments (cs : List Char) : ∃ segments query fragment,
      withSegments scheme authority [] cs =
        { scheme, authority, path := .segments segments, query, fragment } ∧ Written segments := by
    obtain ⟨query, fragment, heq⟩ := withSegments_eq hport authority [] cs
    exact ⟨_, query, fragment, heq, written_enterAll (by simp) _⟩
  unfold withPath
  split
  · exact ⟨[""], none, none, by rw [isSpecial_of_usualPort hport, if_pos rfl], written_root⟩
  · rw [isSpecial_of_usualPort hport, Bool.not_true, Bool.and_false]
    split
    · exact hsegments _
    · exact hsegments _

/-- A reference with a host of its own keeps the scheme of the page it is on. -/
theorem join_namesHost {page : Url} {segments : List String} {text : String}
    (hport : (usualPort page.scheme).isSome) (hpath : page.path = .segments segments)
    (hscheme : namesScheme text = false) (hhost : namesHost text = true) :
    ∃ rest, page.join text = readAuthority page.scheme rest := by
  have hread : readScheme? (trimEdges text) = none := by simpa [namesScheme] using hscheme
  have hopaque : page.isOpaque = false := by rw [isOpaque, hpath]
  have hfile : page.scheme ≠ "file" := ne_of_beq_false (beq_file_of_usualPort hport)
  rw [join, read, hread]
  unfold namesHost at hhost
  split at hhost
  · rename_i c d rest hcs
    obtain ⟨hc, hd⟩ := Bool.and_eq_true_iff.mp hhost
    simp only [hcs, hopaque, hfile, if_false, Bool.false_eq_true]
    obtain rfl | rfl := eq_of_isSlash hc <;> obtain rfl | rfl := eq_of_isSlash hd <;>
      exact ⟨_, rfl⟩
  · cases hhost

/-- Whatever a reference without scheme gives on a page, it has the scheme of the page, and a path
of segments. -/
theorem written_of_join {page u : Url} {segments : List String} {text : String}
    (hport : (usualPort page.scheme).isSome) (hpath : page.path = .segments segments)
    (hwritten : Written segments) (hscheme : namesScheme text = false)
    (hjoin : page.join text = .ok u) :
    u.scheme = page.scheme ∧ ∃ segments', u.path = .segments segments' ∧ Written segments' := by
  cases hhost : namesHost text with
  | true =>
    obtain ⟨rest, hread⟩ := join_namesHost hport hpath hscheme hhost
    obtain ⟨authority, rest, rfl⟩ := (yields_readAuthority _ rest).of_ok (hread.symm.trans hjoin)
    obtain ⟨segments', query, fragment, heq, hwritten'⟩ := withPath_eq hport (some authority) rest
    exact ⟨by rw [heq], segments', by rw [heq], hwritten'⟩
  | false =>
    obtain ⟨v, hlocal, hsame, -, hpath'⟩ := join_originless hport hpath ⟨hscheme, hhost⟩
    cases hlocal.symm.trans hjoin
    exact ⟨hsame, _, hpath', hwritten.resolved _⟩

end DocQuery.Url
