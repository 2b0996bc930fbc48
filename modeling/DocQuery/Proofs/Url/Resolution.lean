import DocQuery.Operation.Builtin
import DocQuery.Proofs.Url.Authority

/-! A reference resolved against a base without scheme.  The base is read on an origin that stands
in for the missing one, and the origin is taken off the result if the result still has it.  A
reference without scheme and host never leaves the origin of its base, so the result is a path from
the root on, except where the base itself names a host, and where the path starts with an empty
segment. -/

namespace DocQuery

namespace Url

/-! ### The origin that stands in -/

/-- An address belongs to the origin that stands in by its host and port alone. -/
theorem sameOrigin_placeholder {u : Url} (hscheme : u.scheme = "http") :
    u.sameOrigin placeholder =
      u.authority.any fun a => a.host = .name "relative.invalid" ∧ a.port.getD 80 = 80 := by
  rw [Bool.eq_iff_iff]
  cases hauthority : u.authority <;>
    simp [sameOrigin, hscheme, origin?, hauthority, usualPort, placeholder]

theorem usualPort_placeholder : (usualPort placeholder.scheme).isSome := rfl

theorem not_rooted_source {u : Url} (hscheme : u.scheme = "http") : ¬Rooted u.source := by
  intro hrooted
  have hroot := hrooted.root
  rw [source, hscheme] at hroot
  simp at hroot

/-- The reference `reference` comes to `text` on the base `base`, neither of them with a scheme:
`page` is the base and `u` the reference as addresses on the origin that stands in. -/
structure Resolves (base reference text : String) (page u : Url) : Prop where
  base_read : placeholder.join base = .ok page
  reference_read : page.join reference = .ok u
  scheme : u.scheme = "http"
  authority : u.authority = page.authority
  text_eq : text = if page.sameOrigin placeholder then u.fromPath else u.source
  rooted_iff : Rooted text ↔ page.sameOrigin placeholder = true ∧ u.path.looksLikeHost = false

section

variable {base reference : String}

theorem resolve_eq (hbase : namesScheme base = false) (reference : String) :
    resolve base reference = (do
      let page ← placeholder.join base
      let u ← page.join reference
      return if sameOrigin u placeholder then u.fromPath else u.source) := by
  rw [resolve, (ofText_eq_noBase_iff base).mpr hbase]

/-- A reference without scheme and host comes to something on every base that is read. -/
theorem exists_resolves (hbase : namesScheme base = false) (hreference : Originless reference)
    {page : Url} (hpage : placeholder.join base = .ok page) :
    ∃ u text, resolve base reference = .ok text ∧ Resolves base reference text page u := by
  obtain ⟨hscheme, segments, hpath, hwritten⟩ :=
    written_of_join usualPort_placeholder rfl written_root hbase hpage
  obtain ⟨u, hjoin, husame, hauthority, hupath⟩ :=
    join_originless (hscheme ▸ usualPort_placeholder) hpath hreference
  have huscheme : u.scheme = "http" := husame.trans hscheme
  have horigin : u.sameOrigin placeholder = page.sameOrigin placeholder := by
    rw [sameOrigin_placeholder huscheme, sameOrigin_placeholder hscheme, hauthority]
  refine ⟨u, _, ?_, hpage, hjoin, huscheme, hauthority, rfl, ?_⟩
  · simp [resolve_eq hbase, hpage, hjoin, horigin, bind, Except.bind, pure, Except.pure]
  · cases page.sameOrigin placeholder with
    | true => simpa using rooted_fromPath_iff hupath (hwritten.resolved _)
    | false => simpa using not_rooted_source huscheme

/-- A base without scheme and host is always read, on the origin that stands in. -/
theorem exists_page (hbase : Originless base) :
    ∃ page, placeholder.join base = .ok page ∧ page.scheme = "http" ∧
      page.sameOrigin placeholder = true ∧
      page.path = .segments (resolved [""] (localPath base)) := by
  obtain ⟨page, hpage, hscheme, hauthority, hpath⟩ :=
    join_originless usualPort_placeholder rfl hbase
  refine ⟨page, hpage, hscheme, ?_, hpath⟩
  rw [sameOrigin_placeholder hscheme, hauthority]
  rfl

theorem Resolves.sameOrigin {text : String} {page u : Url} (h : Resolves base reference text page u)
    (hbase : Originless base) : page.sameOrigin placeholder = true := by
  obtain ⟨_, hpage, -, horigin, -⟩ := exists_page hbase
  cases h.base_read.symm.trans hpage
  exact horigin

/-- What a reference comes to is a path from the root on if neither text has two slashes in a row in
its path. -/
theorem Resolves.rooted {text : String} {page u : Url} (h : Resolves base reference text page u)
    (hbase : Originless base) (hreference : Originless reference)
    (hsingle : SingleSlashes (localPath base)) (hsingle' : SingleSlashes (localPath reference)) :
    Rooted text := by
  obtain ⟨_, hpage, hscheme, horigin, hpath⟩ := exists_page hbase
  cases h.base_read.symm.trans hpage
  obtain ⟨_, hjoin, -, -, hpath'⟩ :=
    join_originless (hscheme ▸ usualPort_placeholder) hpath hreference
  cases h.reference_read.symm.trans hjoin
  refine h.rooted_iff.mpr ⟨horigin, ?_⟩
  rw [hpath']
  exact ((gapless_root.resolved hsingle).resolved hsingle').looksLikeHost

end

end Url

/-! ### The operation -/

theorem invoke_absolute (s : Selection) (base : String) :
    Registry.builtin.invoke "absolute" s [base] =
      (Selection.text <$> Url.resolve base s.raw).mapError .url := rfl

theorem invoke_absolute_text {base reference text : String}
    (h : (Url.resolve base reference).toOption = some text) :
    Registry.builtin.invoke "absolute" (.text reference) [base] = .ok (.text text) := by
  rw [invoke_absolute, Selection.raw]
  cases hresolve : Url.resolve base reference with
  | error e =>
    rw [hresolve] at h
    cases h
  | ok resolved =>
    rw [hresolve] at h
    cases h
    rfl

open Url in
/-- The operation takes a reference without scheme and host to an address on the origin of its base.
A base without scheme and host always gives a result, from the root on: it names no scheme, and a
host only where the path starts with an empty segment, which takes two slashes in a row in one of
the paths.  A base that names a host keeps it, with the scheme of the origin that stands in. -/
theorem absolute_without_origin {base : String} {s : Selection}
    (hbase : Url.ofText base = .error .noBase) (hreference : Originless s.raw) :
    (namesHost base = false →
      ∃ text, Registry.builtin.invoke "absolute" s [base] = .ok (.text text)) ∧
    ∀ result, Registry.builtin.invoke "absolute" s [base] = .ok result →
      ∃ page u, Resolves base s.raw result.raw page u ∧
        (namesHost base = false → page.sameOrigin Url.placeholder = true ∧
          (SingleSlashes (localPath base) → SingleSlashes (localPath s.raw) →
            Rooted result.raw)) := by
  have hscheme : namesScheme base = false := (ofText_eq_noBase_iff base).mp hbase
  rw [invoke_absolute]
  constructor
  · intro hhost
    obtain ⟨page, hpage, -⟩ := exists_page ⟨hscheme, hhost⟩
    obtain ⟨u, text, hresolve, -⟩ := exists_resolves hscheme hreference hpage
    exact ⟨text, by rw [hresolve]; rfl⟩
  · intro result hresult
    cases hpage : Url.placeholder.join base with
    | error e =>
      rw [resolve_eq hscheme, hpage] at hresult
      cases hresult
    | ok page =>
      obtain ⟨u, text, hresolve, h⟩ := exists_resolves hscheme hreference hpage
      rw [hresolve] at hresult
      cases hresult
      exact ⟨page, u, h, fun hhost => ⟨h.sameOrigin ⟨hscheme, hhost⟩,
        h.rooted ⟨hscheme, hhost⟩ hreference⟩⟩

open Url in
theorem absolute_without_origin_up :
    ∃ page u, Resolves "/shop/list/" "../up.html?page=2#top" "/shop/up.html?page=2#top" page u ∧
      Rooted "/shop/up.html?page=2#top" := by
  have hbase : Url.ofText "/shop/list/" = .error .noBase :=
    (ofText_eq_noBase_iff _).mpr (by decide)
  have hreference : Originless (Selection.text "../up.html?page=2#top").raw :=
    ⟨by decide, by decide⟩
  obtain ⟨page, u, h, hlocal⟩ := (absolute_without_origin hbase hreference).2
    (.text "/shop/up.html?page=2#top") (invoke_absolute_text (by decide +kernel))
  exact ⟨page, u, h, (hlocal (by decide)).2 (by decide) (by decide)⟩

open Url in
/-- A base with a host shows in the result, with a scheme that nobody named; and a path that starts
with an empty segment is a host to whoever reads it. -/
theorem absolute_shows_origin :
    (Url.ofText "//[::1]/p/" = .error .noBase ∧ Originless "a.html" ∧
      Registry.builtin.invoke "absolute" (.text "a.html") ["//[::1]/p/"] =
        .ok (.text "http://[::1]/p/a.html") ∧
      namesScheme "http://[::1]/p/a.html" = true) ∧
    (Url.ofText "/shop/" = .error .noBase ∧ Originless "/.//other/x" ∧
      Registry.builtin.invoke "absolute" (.text "/.//other/x") ["/shop/"] =
        .ok (.text "//other/x") ∧
      namesHost "//other/x" = true) := by
  have hhost : Registry.builtin.invoke "absolute" (.text "a.html") ["//[::1]/p/"] =
      .ok (.text "http://[::1]/p/a.html") := invoke_absolute_text (by decide +kernel)
  have hpath : Registry.builtin.invoke "absolute" (.text "/.//other/x") ["/shop/"] =
      .ok (.text "//other/x") := invoke_absolute_text (by decide +kernel)
  refine ⟨⟨?_, ⟨by decide, by decide⟩, hhost, by decide⟩,
    ⟨?_, ⟨by decide, by decide⟩, hpath, by decide⟩⟩
  · exact (ofText_eq_noBase_iff _).mpr (by decide)
  · exact (ofText_eq_noBase_iff _).mpr (by decide)

end DocQuery
