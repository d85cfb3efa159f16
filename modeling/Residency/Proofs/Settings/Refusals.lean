import Residency.Proofs.Settings.Acceptance

namespace Residency

namespace Settings

inductive Unreadable (document : Toml.Entries) (k : Setting) : SettingsError → Prop where
  | sectionParts {name : String} (h : Toml.find k.home.name document = .error name) :
      Unreadable document k (.parts name)
  | noTable {v : Toml} (h : Toml.find k.home.name document = .ok (some v))
      (hv : ∀ origin es, v ≠ .table origin es) : Unreadable document k (.notTable v)
  | keyParts {entries : Toml.Entries} {name : String}
      (h : sectionEntries document k.home = .ok entries)
      (hname : Toml.find k.key entries = .error name) : Unreadable document k (.parts name)

structure FirstUnreadable (document : Toml.Entries) (k : Setting) (e : SettingsError) : Prop where
  unreadable : Unreadable document k e
  earlier : ∀ j ∈ k.earlier, ∃ v, reading document j = .ok v

section Document

variable {document : Toml.Entries} {k : Setting} {e : SettingsError}

theorem unreadable_of_sectionEntries (h : sectionEntries document k.home = .error e) :
    Unreadable document k e := by
  rw [sectionEntries, find] at h
  cases hfind : Toml.find k.home.name document with
  | error name =>
    rw [hfind] at h
    cases h
    exact .sectionParts hfind
  | ok found =>
    rw [hfind, ok_mapError, ok_bind_eq] at h
    split at h
    · cases h
    · cases h
    · next v hv =>
      cases h
      exact .noTable hfind hv

theorem given_eq_error : given document k = .error e ↔ Unreadable document k e := by
  constructor
  · intro h
    rw [given] at h
    cases hentries : sectionEntries document k.home with
    | error e' =>
      rw [hentries] at h
      cases h
      exact unreadable_of_sectionEntries hentries
    | ok entries =>
      rw [hentries, ok_bind, find] at h
      obtain ⟨name, hname, rfl⟩ := mapError_eq_error.mp h
      exact .keyParts hentries hname
  · intro h
    cases h with
    | sectionParts h =>
      rw [given, sectionEntries, find, h]
      rfl
    | noTable h hv =>
      rw [given, sectionEntries, find, h, ok_mapError, ok_bind_eq]
      split
      · next heq => cases heq
      · next heq => exact absurd (Option.some.inj heq) (hv _ _)
      · next heq =>
        cases heq
        rfl
    | keyParts h hname =>
      rw [given, h, ok_bind, find, hname]
      rfl

theorem isRefusal_of_unreadable (h : Unreadable document k e) : e.isRefusal = false := by
  cases h <;> rfl

theorem reading_isRefusal_iff (h : reading document k = .error e) :
    e.isRefusal = false ↔ Unreadable document k e := by
  refine ⟨fun he => ?_, isRefusal_of_unreadable⟩
  rcases (reading_eq_error document).mp h with hgiven | ⟨v, -, -, rfl⟩
  · exact given_eq_error.mp hgiven
  · rw [k.isRefusal_complaint v] at he
    cases he

theorem ofDocument_escapes_iff : (ofDocument document = .error e ∧ e.isRefusal = false) ↔
    ∃ k, FirstUnreadable document k e := by
  constructor
  · rintro ⟨h, he⟩
    obtain ⟨k, hearlier, hk⟩ := ofDocument_eq_error.mp h
    exact ⟨k, (reading_isRefusal_iff hk).mp he, hearlier⟩
  · rintro ⟨k, hunreadable, hearlier⟩
    have hk := (reading_eq_error document).mpr (.inl (given_eq_error.mpr hunreadable))
    exact ⟨ofDocument_eq_error.mpr ⟨k, hearlier, hk⟩, isRefusal_of_unreadable hunreadable⟩

end Document

section Loading

variable {t : FileTree} {p : Path} {bytes : List UInt8} {e : LoadError}

theorem load_eq_error (hbytes : t.readBytes p = .ok bytes) (h : load t p = .error e) :
    e.isRefusal = true ∨ ∃ text d e', t.readText p = .ok text ∧
      Toml.readDocument text = some d ∧ ofDocument d = .error e' ∧ e = .settings e' := by
  rw [load, FileTree.exists?_of_readBytes hbytes] at h
  dsimp only at h
  cases hread : t.readText p with
  | error e' =>
    rw [hread] at h
    cases h
    rw [FileTree.readText, hbytes] at hread
    dsimp only at hread
    cases hdecode : Text.Utf8.decode bytes with
    | error e =>
      rw [hdecode] at hread
      cases hread
      exact .inl rfl
    | ok s =>
      rw [hdecode] at hread
      cases hread
  | ok text =>
    rw [hread, ok_mapError, ok_bind, ofText] at h
    cases hparse : Toml.readDocument text with
    | none =>
      rw [hparse] at h
      cases h
      exact .inl rfl
    | some d =>
      rw [hparse] at h
      obtain ⟨e', he', rfl⟩ := mapError_eq_error.mp h
      exact .inr ⟨text, d, e', rfl, hparse, he', rfl⟩

theorem load_escapes_iff (hbytes : t.readBytes p = .ok bytes) :
    (load t p = .error e ∧ e.isRefusal = false) ↔
      ∃ text d k e', t.readText p = .ok text ∧ Toml.readDocument text = some d ∧
        FirstUnreadable d k e' ∧ e = .settings e' := by
  constructor
  · rintro ⟨hload, he⟩
    rcases load_eq_error hbytes hload with hrefusal | ⟨text, d, e', hread, hparse, hd, rfl⟩
    · rw [hrefusal] at he
      cases he
    · obtain ⟨k, hfirst⟩ := ofDocument_escapes_iff.mp ⟨hd, he⟩
      exact ⟨text, d, k, e', hread, hparse, hfirst, rfl⟩
  · rintro ⟨text, d, k, e', hread, hparse, hfirst, rfl⟩
    obtain ⟨hdocument, he⟩ := ofDocument_escapes_iff.mpr ⟨k, hfirst⟩
    rw [load_eq_ofDocument hread hparse, hdocument]
    exact ⟨rfl, he⟩

end Loading

section Samples

def numberText : List Char :=
  Toml.lineText (Section.collector.name, .int 3)

def numberDocument : Toml.Entries := [(Section.collector.name, .int 3)]

theorem readsEntry_number : Toml.ReadsEntry (Section.collector.name, .int 3)
    (Section.collector.name, .int 3) :=
  .mk (isBare_name .collector) (.int (by decide))

theorem readText_number :
    (sampleFile numberText).readText samplePath = .ok numberText := by
  have hlines : '\r' ∉ [(Section.collector.name, Json.int 3)].flatMap Toml.lineText :=
    Toml.carriageReturn_not_mem_lines (.cons readsEntry_number .nil)
  rw [List.flatMap_singleton] at hlines
  exact readText_sampleFile hlines

theorem firstUnreadable_number : FirstUnreadable numberDocument .procPath (.notTable (.int 3)) :=
  ⟨.noTable rfl nofun, List.forall_mem_nil _⟩

theorem load_escapes_of_number : (sampleFile numberText).readBytes samplePath =
      .ok (Text.Utf8.encode numberText) ∧
    ∃ e, load (sampleFile numberText) samplePath = .error e ∧ e.isRefusal = false := by
  have hbytes : (sampleFile numberText).readBytes samplePath =
      .ok (Text.Utf8.encode numberText) := rfl
  exact ⟨hbytes, _, (load_escapes_iff hbytes).mpr ⟨numberText, numberDocument, .procPath, _,
    readText_number, Toml.readDocument_lineText readsEntry_number, firstUnreadable_number, rfl⟩⟩

theorem not_isRefusal_of_number :
    ∃ e, load (sampleFile "collector = 3\n".toList) samplePath = .error e ∧
      e.isRefusal = false ∧ e.message = "'Integer' object has no attribute 'get'" := by
  have htext : "collector = 3\n".toList = numberText := rfl
  rw [htext, load_eq_ofDocument readText_number (Toml.readDocument_lineText readsEntry_number)]
  exact ⟨_, rfl, rfl, rfl⟩

end Samples

end Settings

end Residency
