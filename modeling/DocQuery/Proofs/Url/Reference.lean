import DocQuery.Proofs.Url.Segments

/-! References that name neither a scheme nor a host.  Read relative to an address whose scheme has
a usual port, such a reference always gives an address: of the same scheme and authority, with a
path that is known exactly. -/

namespace DocQuery.Url

/-- Whether a text is read as one with a scheme. -/
def namesScheme (text : String) : Bool := (readScheme? (trimEdges text)).isSome

/-- Whether a text without scheme is read as one with a host: after two slashes of any kind. -/
def namesHost (text : String) : Bool :=
  match visible (trimEdges text) with
  | c :: d :: _ => isSlash true c && isSlash true d
  | _ => false

/-- The text names neither a scheme nor a host. -/
structure Originless (text : String) : Prop where
  scheme : namesScheme text = false
  host : namesHost text = false

/-- The text is a path from the root on, and what follows one. -/
structure Rooted (text : String) : Prop extends Originless text where
  root : text.toList.head? = some '/'

/-- The path of a text without scheme and host. -/
def localPath (text : String) : List Char := pathOf (trimEdges text)

/-! ### Paths from segments on -/

theorem withSegments_eq {scheme : String} (hport : (usualPort scheme).isSome)
    (authority : Option Authority) (segments : List String) (cs : List Char) :
    ∃ query fragment, withSegments scheme authority segments cs =
      { scheme, authority, query, fragment
        path := .segments (enterAll segments [] (pathOf cs)) } := by
  have hread := readSegments_segments hport segments [] false cs
  simp only [withSegments, withReading, beq_file_of_usualPort hport, hread]
  exact ⟨_, _, rfl⟩

theorem visible_visible (cs : List Char) : visible (visible cs) = visible cs := by
  simp [visible]

theorem pathOf_visible (cs : List Char) : pathOf (visible cs) = pathOf cs := by
  rw [pathOf, visible_visible, pathOf]

/-- The segments after a path that is relative to the given ones. -/
def resolved (segments : List String) (path : List Char) : List String :=
  match path with
  | [] => segments
  | c :: rest =>
    if isSlash true c then enterAll [] [] rest else enterAll segments.dropLast [] (c :: rest)

section

variable {segments : List String}

theorem resolved_of_isSlash {c : Char} (h : isSlash true c = true) (rest : List Char) :
    resolved segments (c :: rest) = enterAll [] [] rest := by
  rw [resolved, if_pos h]

theorem resolved_of_not_isSlash {c : Char} (h : isSlash true c = false) (rest : List Char) :
    resolved segments (c :: rest) = enterAll segments.dropLast [] (c :: rest) := by
  rw [resolved, h, if_neg Bool.false_ne_true]

/-- A text without scheme and host that is relative to an address is read like this. -/
theorem readRelative_eq {page : Url} (hport : (usualPort page.scheme).isSome)
    (hpath : page.path = .segments segments) {cs : List Char}
    (hignored : ∀ c ∈ cs, isIgnored c = false)
    (hhost : ∀ c d rest, cs = c :: d :: rest → isSlash true c = true → isSlash true d = false) :
    ∃ query fragment, readRelative page cs =
      .ok { page with path := .segments (resolved segments (pathOf cs)), query, fragment } := by
  cases cs with
  | nil =>
    have hsame : Path.segments (resolved segments (pathOf [])) = page.path := hpath.symm
    rw [hsame]
    exact ⟨_, _, rfl⟩
  | cons c rest =>
    obtain ⟨hc, -⟩ := List.forall_mem_cons.mp hignored
    by_cases hquery : c = '?'
    · subst hquery
      rw [pathOf_of_endsPath hc rfl, resolved, ← hpath]
      exact ⟨_, _, rfl⟩
    by_cases hfragment : c = '#'
    · subst hfragment
      rw [pathOf_of_endsPath hc rfl, resolved, ← hpath]
      exact ⟨_, _, rfl⟩
    have hend : endsPath c = false := by simp [endsPath, hquery, hfragment]
    rw [pathOf_cons hc hend]
    cases hslash : isSlash true c with
    | true =>
      obtain ⟨query, fragment, hsegments⟩ := withSegments_eq hport page.authority [] rest
      refine ⟨query, fragment, ?_⟩
      rw [resolved_of_isSlash hslash, ← hsegments]
      cases rest with
      | nil => simp only [readRelative, hquery, hfragment, hslash, if_true, if_false]
      | cons d rest =>
        have hd := hhost c d rest rfl hslash
        have hslashes : ¬(c = '/' ∧ d = '/') := by
          rintro ⟨-, rfl⟩
          exact absurd hd (by decide)
        simp only [readRelative, hquery, hfragment, hslash, hslashes, hd, Bool.false_eq_true,
          if_true, if_false]
    | false =>
      obtain ⟨query, fragment, hsegments⟩ :=
        withSegments_eq hport page.authority segments.dropLast (c :: rest)
      refine ⟨query, fragment, ?_⟩
      rw [pathOf_cons hc hend] at hsegments
      rw [resolved_of_not_isSlash hslash, ← hsegments]
      simp only [readRelative, hquery, hfragment, hslash, hpath, Bool.false_eq_true, if_false]

end

/-! ### Whole references -/

theorem isIgnored_of_mem_visible {cs : List Char} : ∀ c ∈ visible cs, isIgnored c = false := by
  intro c hc
  simpa using (List.mem_filter.mp hc).2

/-- A reference without scheme and host keeps both of the page it is on. -/
theorem join_originless {page : Url} {segments : List String} {text : String}
    (hport : (usualPort page.scheme).isSome) (hpath : page.path = .segments segments)
    (htext : Originless text) :
    ∃ u, page.join text = .ok u ∧ u.scheme = page.scheme ∧ u.authority = page.authority ∧
      u.path = .segments (resolved segments (localPath text)) := by
  have hscheme : readScheme? (trimEdges text) = none := by
    simpa [namesScheme] using htext.scheme
  have hhost : ∀ c d rest, visible (trimEdges text) = c :: d :: rest →
      isSlash true c = true → isSlash true d = false := by
    intro c d rest hcs hc
    simpa [namesHost, hcs, hc] using htext.host
  rw [join, read, hscheme]
  by_cases hfragment : (visible (trimEdges text)).head? = some '#'
  · obtain ⟨rest, hrest⟩ := List.head?_eq_some_iff.mp hfragment
    rw [localPath, ← pathOf_visible, hrest, pathOf_of_endsPath rfl rfl, resolved, ← hpath]
    exact ⟨_, rfl, rfl, rfl, rfl⟩
  · have hopaque : page.isOpaque = false := by rw [isOpaque, hpath]
    have hfile : page.scheme ≠ "file" := ne_of_beq_false (beq_file_of_usualPort hport)
    obtain ⟨query, fragment, hread⟩ := readRelative_eq hport hpath isIgnored_of_mem_visible hhost
    rw [pathOf_visible] at hread
    simp only [hfragment, hopaque, hfile, Bool.false_eq_true, if_false]
    exact ⟨_, hread, rfl, rfl, rfl⟩

/-! ### What paths are written like -/

/-- Segments as the path of an address with a usual port has them. -/
structure Written (segments : List String) : Prop where
  ne_nil : segments ≠ []
  segment : ∀ s ∈ segments, IsSegment s

/-- No segment before another one is empty. -/
def Gapless (segments : List String) : Prop := ∀ s ∈ segments.dropLast, s ≠ ""

section

variable {segments : List String} {path : List Char}

theorem written_enterAll (hsegments : ∀ s ∈ segments, IsSegment s) (path : List Char) :
    Written (enterAll segments [] path) :=
  ⟨enterAll_ne_nil segments [] path, isSegment_enterAll hsegments (by simp)⟩

theorem written_root : Written [""] :=
  ⟨List.cons_ne_nil _ _, List.forall_mem_singleton.mpr isSegment_empty⟩

theorem gapless_root : Gapless [""] := by
  intro s hs
  cases hs

theorem Written.resolved (h : Written segments) (path : List Char) :
    Written (resolved segments path) := by
  cases path with
  | nil => exact h
  | cons c rest =>
    rw [Url.resolved]
    split
    · exact written_enterAll (by simp) rest
    · exact written_enterAll (fun s hs => h.segment s (List.mem_of_mem_dropLast hs)) (c :: rest)

theorem Gapless.resolved (h : Gapless segments) (hpath : SingleSlashes path) :
    Gapless (resolved segments path) := by
  cases path with
  | nil => exact h
  | cons c rest =>
    rw [Url.resolved]
    split
    · rename_i hslash
      obtain ⟨hnext, hrest⟩ := List.isChain_cons.mp hpath
      refine ne_empty_of_mem_dropLast_enterAll (by simp) (fun _ d hd => ?_) hrest
      exact Bool.eq_false_of_not_eq_true fun hd' => hnext d hd ⟨hslash, hd'⟩
    · rename_i hslash
      exact ne_empty_of_mem_dropLast_enterAll h (fun _ d hd => by simp_all) hpath

theorem looksLikeHost_iff :
    (Path.segments segments).looksLikeHost = true ↔ ∃ s rest, segments = "" :: s :: rest := by
  unfold Path.looksLikeHost
  split
  · rename_i s rest heq
    cases heq
    simp
  · rename_i hother
    simp only [Bool.false_eq_true, false_iff]
    rintro ⟨s, rest, rfl⟩
    exact hother s rest rfl

theorem Gapless.looksLikeHost (h : Gapless segments) :
    (Path.segments segments).looksLikeHost = false := by
  refine Bool.eq_false_of_not_eq_true fun hhost => ?_
  obtain ⟨s, rest, rfl⟩ := looksLikeHost_iff.mp hhost
  exact h "" (by simp) rfl

end

/-! ### Addresses from their path on -/

/-- Characters that do not count at the ends of a text. -/
def isEdge (c : Char) : Bool := c.toNat ≤ 0x20

theorem trimEdges_eq (text : String) :
    trimEdges text = (text.toList.dropWhile isEdge).rdropWhile isEdge := rfl

theorem isEdge_of_lt {c : Char} (hc : 0x20 < c.toNat) : isEdge c = false := by
  simpa [isEdge] using hc

theorem rdropWhile_cons_of_neg {α : Type} {p : α → Bool} {x : α} (hx : p x = false) (xs : List α) :
    (x :: xs).rdropWhile p = x :: xs.rdropWhile p := by
  induction xs using List.reverseRecOn with
  | nil => simp [hx]
  | append_singleton xs y ih =>
    rw [← List.cons_append, List.rdropWhile_concat, List.rdropWhile_concat, ih]
    split
    · rfl
    · rw [List.cons_append]

/-- A text from the root on is trimmed at its end only. -/
theorem trimEdges_eq_cons {text : String} {rest : List Char} (htext : text.toList = '/' :: rest) :
    trimEdges text = '/' :: rest.rdropWhile isEdge := by
  rw [trimEdges_eq, htext, List.dropWhile_cons_of_neg (by decide), rdropWhile_cons_of_neg rfl]

theorem namesScheme_of_slash {text : String} {rest : List Char}
    (htext : text.toList = '/' :: rest) : namesScheme text = false := by
  rw [namesScheme, trimEdges_eq_cons htext, readScheme?, List.takeWhile_cons_of_neg (by decide)]
  rfl

theorem not_isIgnored_of_lt {c : Char} (hc : 0x20 < c.toNat) : isIgnored c = false := by
  refine Bool.eq_false_of_not_eq_true fun hignored => ?_
  have hcases : (c = '\t' ∨ c = '\n') ∨ c = '\r' := by simpa [isIgnored] using hignored
  obtain (rfl | rfl) | rfl := hcases <;> exact absurd hc (by decide)

theorem namesHost_of_slash {text : String} {rest : List Char} (htext : text.toList = '/' :: rest)
    (hrest : ∀ d ∈ rest.head?, 0x20 < d.toNat) :
    namesHost text = rest.head?.any (isSlash true) := by
  rw [namesHost, trimEdges_eq_cons htext]
  cases rest with
  | nil => rfl
  | cons d rest =>
    have hd : 0x20 < d.toNat := hrest d rfl
    have hslash : isIgnored '/' = false := rfl
    rw [rdropWhile_cons_of_neg (isEdge_of_lt hd)]
    simp [visible, hslash, not_isIgnored_of_lt hd, isSlash]

theorem toList_fromPath {u : Url} {s : String} {rest : List String}
    (hpath : u.path = .segments (s :: rest)) :
    u.fromPath.toList = '/' :: (s.toList ++ (rest.flatMap fun t => '/' :: t.toList) ++
      ((u.query.map ("?" ++ ·)).getD "").toList ++
      ((u.fragment.map ("#" ++ ·)).getD "").toList) := by
  simp [fromPath, hpath, Path.source, String.toList_join, List.flatMap_map]

/-- What an address shows from its path on starts with a slash, and a second slash follows exactly if
the path looks like a host. -/
theorem exists_toList_fromPath {u : Url} {segments : List String}
    (hpath : u.path = .segments segments) (h : Written segments) :
    ∃ tail, u.fromPath.toList = '/' :: tail ∧ (∀ d ∈ tail.head?, 0x20 < d.toNat) ∧
      tail.head?.any (isSlash true) = u.path.looksLikeHost := by
  obtain ⟨s, rest, rfl⟩ := List.exists_cons_of_ne_nil h.ne_nil
  refine ⟨_, toList_fromPath hpath, ?_⟩
  cases hs : s.toList with
  | cons c cs =>
    obtain ⟨hc, hslash⟩ := h.segment s List.mem_cons_self c (by simp [hs])
    have hhost : u.path.looksLikeHost = false := by
      refine Bool.eq_false_of_not_eq_true fun hhost => ?_
      rw [hpath] at hhost
      obtain ⟨t, rest, heq⟩ := looksLikeHost_iff.mp hhost
      cases heq
      cases hs
    simpa [hhost, hslash] using hc
  | nil =>
    obtain rfl : s = "" := String.toList_eq_nil_iff.mp hs
    cases rest with
    | cons t rest => simp [hpath, Path.looksLikeHost, isSlash]
    | nil =>
      -- Behind a path that is one slash stands the mark of a query or fragment, or nothing.
      have hhost : u.path.looksLikeHost = false := by simp [hpath, Path.looksLikeHost]
      rw [hhost]
      cases u.query <;> cases u.fragment <;> simp [isSlash]

/-- What an address shows from its path on is a path from the root, unless a host would be read
from it. -/
theorem rooted_fromPath_iff {u : Url} {segments : List String}
    (hpath : u.path = .segments segments) (h : Written segments) :
    Rooted u.fromPath ↔ u.path.looksLikeHost = false := by
  obtain ⟨tail, htext, hnext, hlooks⟩ := exists_toList_fromPath hpath h
  have hhost := namesHost_of_slash htext hnext
  rw [hlooks] at hhost
  constructor
  · exact fun hrooted => hhost ▸ hrooted.host
  · intro hpathHost
    exact { scheme := namesScheme_of_slash htext, host := hhost.trans hpathHost
            root := by rw [htext, List.head?_cons] }

end DocQuery.Url
