import Residency.Proofs.Settings.Reading
import Residency.Proofs.Toml.LongNumerals
import Residency.Proofs.Toml.Lookup

namespace Residency

namespace Setting

def demand (k : Setting) (v : Toml) : String :=
  if k.isText then "a string"
  else match v with
    | .int _ => ">= " ++ toString k.minimum
    | _ => "an integer"

theorem message_complaint (k : Setting) (v : Toml) : (k.complaint v).message =
    withShown (k.key ++ " must be " ++ k.demand v ++ ", got ") v := by
  have hjoin (a b c : String) : withShown (k.key ++ (a ++ b ++ c)) v =
      withShown (k.key ++ a ++ b ++ c) v := by
    rw [String.append_assoc, String.append_assoc, String.append_assoc]
  unfold complaint demand
  split_ifs
  · exact hjoin " must be " "a string" ", got "
  · cases v with
    | int n =>
      have hbound : " must be >= " = " must be " ++ ">= " := rfl
      dsimp only [SettingsError.message]
      rw [hbound]
      simp only [String.append_assoc]
    | _ => exact hjoin " must be " "an integer" ", got "

theorem message_complaint_of_long (k : Setting) {v : Toml} (h : v.isWritable = false) :
    (k.complaint v).message = Number.notWritableMessage := by
  rw [message_complaint, withShown, h, if_neg Bool.false_ne_true]

theorem isRefusal_complaint (k : Setting) (v : Toml) : (k.complaint v).isRefusal = true := by
  unfold complaint
  split_ifs
  · rfl
  · cases v <;> rfl

theorem complaint_injective {j k : Setting} {v w : Toml} (h : j.complaint v = k.complaint w) :
    j = k := by
  unfold complaint at h
  split_ifs at h
  · exact (SettingsError.notString.inj h).1
  · cases w <;> cases h
  · cases v <;> cases h
  · cases v <;> cases w <;> cases h <;> rfl

end Setting

namespace Settings

def IsReadable (document : Toml.Entries) : Prop :=
  ∀ k, ∃ found, given document k = .ok found

theorem isReadable_of_nodup {document : Toml.Entries} (names : (document.map (·.1)).Nodup)
    (htables : ∀ (h : Section) (v : Toml), (h.name, v) ∈ document →
      ∃ origin es, v = .table origin es ∧ (es.map (·.1)).Nodup) : IsReadable document := by
  intro k
  have hentries : ∃ entries, sectionEntries document k.home = .ok entries ∧
      (entries.map (·.1)).Nodup := by
    rw [sectionEntries, find]
    rcases Toml.find_of_nodup names k.home.name with hfind | ⟨v, hmem, hfind⟩
    · rw [hfind]
      exact ⟨[], rfl, List.nodup_nil⟩
    · obtain ⟨origin, es, rfl, hnodup⟩ := htables k.home v hmem
      rw [hfind]
      exact ⟨es, rfl, hnodup⟩
  obtain ⟨entries, hentries, hnodup⟩ := hentries
  rw [given, hentries, ok_bind, find]
  rcases Toml.find_of_nodup hnodup k.key with hfind | ⟨v, -, hfind⟩
  · exact ⟨none, by rw [hfind, ok_mapError]⟩
  · exact ⟨some v, by rw [hfind, ok_mapError]⟩

def Suits (document : Toml.Entries) (k : Setting) : Prop :=
  ∀ v, given document k = .ok (some v) → k.accepts v = true

structure FirstUnsuited (document : Toml.Entries) (k : Setting) (v : Toml) : Prop where
  given : given document k = .ok (some v)
  refused : k.accepts v = false
  earlier : ∀ j ∈ k.earlier, Suits document j

section Reading

variable {document : Toml.Entries} {s : Settings} {k : Setting} {v : Toml}

theorem suits_iff (h : IsReadable document) :
    (∃ v, reading document k = .ok v) ↔ Suits document k := by
  constructor
  · rintro ⟨v, hv⟩ w hw
    rcases (reading_eq_ok document).mp hv with ⟨hnone, -⟩ | ⟨hsome, haccepts⟩
    · cases hnone.symm.trans hw
    · cases hsome.symm.trans hw
      exact haccepts
  · intro hsuits
    obtain ⟨_ | v, hfound⟩ := h k
    · exact ⟨_, (reading_eq_ok document).mpr (.inl ⟨hfound, rfl⟩)⟩
    · exact ⟨v, (reading_eq_ok document).mpr (.inr ⟨hfound, hsuits v hfound⟩)⟩

theorem exists_ofDocument_iff (h : IsReadable document) :
    (∃ s, ofDocument document = .ok s) ↔ ∀ k, Suits document k := by
  simp only [← suits_iff h]
  rcases ofDocument_cases document with ⟨s, hs, hread⟩ | ⟨k, e, he, -, hk⟩
  · exact ⟨fun _ k => ⟨_, hread k⟩, fun _ => ⟨s, hs⟩⟩
  · constructor
    · rintro ⟨s, hs⟩
      cases he.symm.trans hs
    · intro hall
      obtain ⟨v, hv⟩ := hall k
      cases hk.symm.trans hv

theorem ofDocument_eq_error_iff (h : IsReadable document) {e : SettingsError} :
    ofDocument document = .error e ↔
      ∃ k v, FirstUnsuited document k v ∧ e = k.complaint v := by
  rw [ofDocument_eq_error]
  refine exists_congr fun k => ?_
  simp only [suits_iff h]
  rw [reading_eq_error]
  constructor
  · rintro ⟨hearlier, he | ⟨v, hv, hrefused, rfl⟩⟩
    · obtain ⟨found, hfound⟩ := h k
      cases he.symm.trans hfound
    · exact ⟨v, ⟨hv, hrefused, hearlier⟩, rfl⟩
  · rintro ⟨v, ⟨hv, hrefused, hearlier⟩, rfl⟩
    exact ⟨hearlier, .inr ⟨v, hv, hrefused, rfl⟩⟩

theorem given_of_ofDocument (hs : ofDocument document = .ok s) (k : Setting) :
    given document k = .ok (some (s.written k)) ∨
      given document k = .ok none ∧ s.written k = ({} : Settings).written k := by
  rcases (reading_eq_ok document).mp (ofDocument_eq_ok.mp hs k) with hnone | ⟨hsome, -⟩
  · exact .inr hnone
  · exact .inl hsome

end Reading

/-- Documents that differ in the order of sections and keys, and in sections and keys that no
setting stands under. -/
inductive Rearranged : Toml.Entries → Toml.Entries → Prop where
  | sections {d d' : Toml.Entries} (h : d.Perm d') : Rearranged d d'
  | keys {before after es es' : Toml.Entries} {name : String} {origin : TableOrigin}
      (h : es.Perm es') : Rearranged (before ++ (name, .table origin es) :: after)
        (before ++ (name, .table origin es') :: after)
  | unknownSection {d : Toml.Entries} {name : String} (v : Toml)
      (h : ∀ k : Setting, k.home.name ≠ name) : Rearranged ((name, v) :: d) d
  | unknownKey {before after es : Toml.Entries} {name key : String} {origin : TableOrigin}
      (v : Toml) (h : ∀ k : Setting, k.home.name = name → k.key ≠ key) :
      Rearranged (before ++ (name, .table origin ((key, v) :: es)) :: after)
        (before ++ (name, .table origin es) :: after)
  | symm {d d' : Toml.Entries} (h : Rearranged d d') : Rearranged d' d
  | trans {d d' d'' : Toml.Entries} (h : Rearranged d d') (h' : Rearranged d' d'') :
      Rearranged d d''

def held (document : Toml.Entries) (k : Setting) : List Toml :=
  Toml.valuesOf k.key (Toml.mergedEntries (Toml.valuesOf k.home.name document))

theorem sectionEntries_eq_ok {document entries : Toml.Entries} {h : Section}
    (hentries : sectionEntries document h = .ok entries) :
    entries = Toml.mergedEntries (Toml.valuesOf h.name document) := by
  obtain ⟨found, hfound, hentries⟩ := bind_eq_ok.mp hentries
  rw [find, mapError_eq_ok] at hfound
  rcases Toml.find_eq_ok hfound with ⟨hparts, rfl⟩ | ⟨v, hparts, rfl⟩ | ⟨hlength, rfl⟩
  · cases hentries
    rw [hparts]
    rfl
  · rw [hparts]
    cases v with
    | table origin es =>
      cases hentries
      simp [Toml.mergedEntries, Toml.ownEntries]
    | _ => cases hentries
  · cases hentries
    rfl

theorem given_eq_ok {document : Toml.Entries} {k : Setting} {found : Option Toml}
    (h : given document k = .ok found) :
    (held document k = [] ∧ found = none) ∨ (∃ v, held document k = [v] ∧ found = some v) ∨
      1 < (held document k).length ∧
        found = some (.table .joined (Toml.mergedEntries (held document k))) := by
  obtain ⟨entries, hentries, hfound⟩ := bind_eq_ok.mp h
  rw [find, mapError_eq_ok] at hfound
  rw [held, ← sectionEntries_eq_ok hentries]
  exact Toml.find_eq_ok hfound

theorem held_perm_of_section {before after es es' : Toml.Entries} {name : String}
    {origin : TableOrigin} {k : Setting}
    (h : k.home.name = name → (Toml.valuesOf k.key es).Perm (Toml.valuesOf k.key es')) :
    (held (before ++ (name, .table origin es) :: after) k).Perm
      (held (before ++ (name, .table origin es') :: after) k) := by
  by_cases hname : name = k.home.name
  · subst hname
    have hown (alone : Bool) :
        (Toml.valuesOf k.key (Toml.ownEntries alone (.table origin es))).Perm
          (Toml.valuesOf k.key (Toml.ownEntries alone (.table origin es'))) := by
      rw [Toml.ownEntries, Toml.ownEntries]
      split_ifs
      · exact h rfl
      · exact .rfl
    simp only [held, Toml.valuesOf_append, Toml.valuesOf_cons_self, Toml.mergedEntries,
      List.length_append, List.length_cons, List.flatMap_append, List.flatMap_cons]
    exact ((hown _).append_right _).append_left _
  · simp only [held, Toml.valuesOf_append, Toml.valuesOf_cons_of_ne hname]
    exact .rfl

theorem held_perm {d d' : Toml.Entries} (h : Rearranged d d') (k : Setting) :
    (held d k).Perm (held d' k) := by
  induction h with
  | sections h =>
    exact Toml.valuesOf_perm (Toml.mergedEntries_perm (Toml.valuesOf_perm h _)) _
  | keys h => exact held_perm_of_section fun _ => Toml.valuesOf_perm h _
  | unknownSection v h =>
    rw [held, Toml.valuesOf_cons_of_ne (Ne.symm (h k))]
    exact .rfl
  | unknownKey v h =>
    refine held_perm_of_section fun hname => ?_
    rw [Toml.valuesOf_cons_of_ne (Ne.symm (h k hname))]
  | symm _ ih => exact ih.symm
  | trans _ _ ih ih' => exact ih.trans ih'

section Rearranged

variable {d d' : Toml.Entries} {k : Setting} {v : Toml} {s : Settings}

/-- Several parts of a table are joined in their own order, and such a table suits no setting. -/
theorem given_of_rearranged (h : Rearranged d d') {found found' : Option Toml}
    (hfound : given d k = .ok found) (hfound' : given d' k = .ok found') :
    found = found' ∨ ∃ es es', found = some (.table .joined es) ∧
      found' = some (.table .joined es') := by
  have hperm := held_perm h k
  have hlength := hperm.length_eq
  rcases given_eq_ok hfound with ⟨hheld, rfl⟩ | ⟨v, hheld, rfl⟩ | ⟨hparts, rfl⟩ <;>
    rcases given_eq_ok hfound' with ⟨hheld', rfl⟩ | ⟨v', hheld', rfl⟩ | ⟨hparts', rfl⟩
  · exact .inl rfl
  · simp [hheld, hheld'] at hlength
  · rw [hheld, List.length_nil] at hlength
    omega
  · simp [hheld, hheld'] at hlength
  · rw [hheld, hheld', List.singleton_perm_singleton] at hperm
    exact .inl (congrArg some hperm)
  · rw [hheld, List.length_singleton] at hlength
    omega
  · rw [hheld', List.length_nil] at hlength
    omega
  · rw [hheld', List.length_singleton] at hlength
    omega
  · exact .inr ⟨_, _, rfl, rfl⟩

variable (h : Rearranged d d') (hd' : IsReadable d')
include h hd'

theorem reading_of_rearranged (hv : reading d k = .ok v) : reading d' k = .ok v := by
  obtain ⟨found', hfound'⟩ := hd' k
  rcases (reading_eq_ok d).mp hv with ⟨hnone, rfl⟩ | ⟨hsome, haccepts⟩
  · rcases given_of_rearranged h hnone hfound' with rfl | ⟨_, _, hjoined, -⟩
    · exact (reading_eq_ok d').mpr (.inl ⟨hfound', rfl⟩)
    · cases hjoined
  · rcases given_of_rearranged h hsome hfound' with rfl | ⟨_, _, hjoined, -⟩
    · exact (reading_eq_ok d').mpr (.inr ⟨hfound', haccepts⟩)
    · cases hjoined
      cases haccepts

theorem ofDocument_of_rearranged (hs : ofDocument d = .ok s) : ofDocument d' = .ok s :=
  ofDocument_eq_ok.mpr fun k => reading_of_rearranged h hd' (ofDocument_eq_ok.mp hs k)

theorem firstUnsuited_of_rearranged (hd : IsReadable d) (hv : FirstUnsuited d k v) :
    ∃ v', FirstUnsuited d' k v' := by
  obtain ⟨hgiven, hrefused, hearlier⟩ := hv
  have hearlier' : ∀ j ∈ k.earlier, Suits d' j := by
    intro j hj
    obtain ⟨w, hw⟩ := (suits_iff hd).mpr (hearlier j hj)
    exact (suits_iff hd').mp ⟨w, reading_of_rearranged h hd' hw⟩
  obtain ⟨found', hfound'⟩ := hd' k
  rcases given_of_rearranged h hgiven hfound' with rfl | ⟨es, es', -, rfl⟩
  · exact ⟨v, hfound', hrefused, hearlier'⟩
  · exact ⟨.table .joined es', hfound', rfl, hearlier'⟩

theorem complaint_of_rearranged (hd : IsReadable d)
    (hv : ofDocument d = .error (k.complaint v)) :
    ∃ v', ofDocument d' = .error (k.complaint v') := by
  obtain ⟨j, w, hw, hcomplaint⟩ := (ofDocument_eq_error_iff hd).mp hv
  obtain rfl := Setting.complaint_injective hcomplaint
  obtain ⟨v', hv'⟩ := firstUnsuited_of_rearranged h hd' hd hw
  exact ⟨v', (ofDocument_eq_error_iff hd').mpr ⟨k, v', hv', rfl⟩⟩

end Rearranged

section Loading

variable {t : FileTree} {p : Path} {text : List Char} {d : Toml.Entries} {s : Settings}

theorem load_eq_ofDocument (hread : t.readText p = .ok text)
    (hparse : Toml.readDocument text = some d) :
    load t p = (ofDocument d).mapError .settings := by
  obtain ⟨bytes, hbytes⟩ := FileTree.readBytes_of_readText hread
  rw [load, FileTree.exists?_of_readBytes hbytes]
  dsimp only
  rw [hread, ok_mapError, ok_bind, ofText, hparse]

theorem mapError_settings_eq_error {x : Except SettingsError Settings} {e : SettingsError} :
    x.mapError .settings = .error (LoadError.settings e) ↔ x = .error e := by
  rw [mapError_eq_error]
  simp

theorem load_of_document (hread : t.readText p = .ok text)
    (hparse : Toml.readDocument text = some d) (hd : IsReadable d) :
    ((∃ s, load t p = .ok s) ↔ ∀ k, Suits d k) ∧
    (∀ s, load t p = .ok s → ∀ k, given d k = .ok (some (s.written k)) ∨
      given d k = .ok none ∧ s.written k = ({} : Settings).written k) ∧
    (∀ e, load t p = .error e → e.isRefusal = true ∧ ∃ k v, FirstUnsuited d k v ∧
      e = .settings (k.complaint v) ∧ e.message =
        if v.isWritable then k.key ++ " must be " ++ k.demand v ++ ", got " ++ String.ofList v.shown
        else Number.notWritableMessage) ∧
    ∀ (t' : FileTree) (p' : Path) (text' : List Char) (d' : Toml.Entries),
      t'.readText p' = .ok text' → Toml.readDocument text' = some d' → IsReadable d' →
      Rearranged d d' → (∀ s, load t p = .ok s ↔ load t' p' = .ok s) ∧
        ∀ k : Setting, (∃ v, load t p = .error (.settings (k.complaint v))) ↔
          ∃ v, load t' p' = .error (.settings (k.complaint v)) := by
  rw [load_eq_ofDocument hread hparse]
  refine ⟨?_, fun s hs => given_of_ofDocument (mapError_eq_ok.mp hs), ?_, ?_⟩
  · simp only [mapError_eq_ok]
    exact exists_ofDocument_iff hd
  · intro e he
    obtain ⟨e, hdocument, rfl⟩ := mapError_eq_error.mp he
    obtain ⟨k, v, hfirst, rfl⟩ := (ofDocument_eq_error_iff hd).mp hdocument
    exact ⟨k.isRefusal_complaint v, k, v, hfirst, rfl, k.message_complaint v⟩
  · intro t' p' text' d' hread' hparse' hd' h
    rw [load_eq_ofDocument hread' hparse']
    simp only [mapError_eq_ok, mapError_settings_eq_error]
    exact ⟨fun s => ⟨ofDocument_of_rearranged h hd', ofDocument_of_rearranged h.symm hd⟩,
      fun k => ⟨fun ⟨v, hv⟩ => complaint_of_rearranged h hd' hd hv,
        fun ⟨v, hv⟩ => complaint_of_rearranged h.symm hd hd' hv⟩⟩

end Loading

section Samples

def samplePath : Path := { parts := ["config.toml"] }

def sampleFile (text : List Char) : FileTree :=
  { entries := [(samplePath, .file (Text.Utf8.encode text))] }

theorem readText_sampleFile {text : List Char} (h : '\r' ∉ text) :
    (sampleFile text).readText samplePath = .ok text := by
  have hbytes : (sampleFile text).readBytes samplePath = .ok (Text.Utf8.encode text) := rfl
  exact FileTree.readText_of_readBytes hbytes h

def misplacedSections : List (String × List (String × Json)) :=
  [("later", [("num_buckets", .str "x")]), ("names", [("default_thread_name", .int 5)]),
    ("collector", [("extra", .int 1), ("num_buckets", .int 0), ("proc_path", .str "p")])]

def misplacedTables : List (String × Toml.Entries) :=
  [("later", [("num_buckets", .str "x")]), ("names", [("default_thread_name", .int 5)]),
    ("collector", [("extra", .int 1), ("num_buckets", .int 0), ("proc_path", .str "p")])]

def misplacedText : List Char :=
  misplacedSections.flatMap Toml.blockText

theorem readsSection_misplaced :
    List.Forall₂ Toml.ReadsSection misplacedSections misplacedTables := by
  have hbare {k : String} (hne : k.toList ≠ []) (h : k.toList.all Toml.isBareChar = true) :
      Toml.IsBare k := ⟨hne, List.all_eq_true.mp h⟩
  refine .cons (.mk (hbare (by decide) (by decide)) ?_ (by decide)) (.cons
    (.mk (hbare (by decide) (by decide)) ?_ (by decide)) (.cons
    (.mk (hbare (by decide) (by decide)) ?_ (by decide)) .nil))
  · exact .cons (.mk (hbare (by decide) (by decide)) (.str _)) .nil
  · exact .cons (.mk (hbare (by decide) (by decide)) (.int (by decide))) .nil
  · exact .cons (.mk (hbare (by decide) (by decide)) (.int (by decide))) (.cons
      (.mk (hbare (by decide) (by decide)) (.int (by decide))) (.cons
      (.mk (hbare (by decide) (by decide)) (.str _)) .nil))

theorem isReadable_misplaced : IsReadable (misplacedTables.map Toml.tableEntry) := by
  refine isReadable_of_nodup (by decide) fun h v hv => ?_
  obtain ⟨⟨name, es⟩, hmem, heq⟩ := List.mem_map.mp hv
  cases heq
  have hown : ∀ t ∈ misplacedTables, (t.2.map (·.1)).Nodup := by decide
  exact ⟨.header, es, rfl, hown _ hmem⟩

theorem load_of_document_of_misplaced :
    (sampleFile misplacedText).readText samplePath = .ok misplacedText ∧
      Toml.readDocument misplacedText = some (misplacedTables.map Toml.tableEntry) ∧
      IsReadable (misplacedTables.map Toml.tableEntry) ∧
      ∃ e, load (sampleFile misplacedText) samplePath = .error e ∧
        e.message = "num_buckets must be >= 1, got 0" := by
  have hread := readText_sampleFile (Toml.carriageReturn_not_mem_blocks readsSection_misplaced)
  have hparse := Toml.readDocument_blocks readsSection_misplaced (by decide)
  refine ⟨hread, hparse, isReadable_misplaced, ?_⟩
  obtain ⟨hiff, -, herror, -⟩ := load_of_document hread hparse isReadable_misplaced
  cases hload : load (sampleFile misplacedText) samplePath with
  | ok s => exact absurd (hiff.mp ⟨s, hload⟩ .buckets (.int 0) rfl) (by decide)
  | error e =>
    obtain ⟨-, k, v, ⟨hgiven, hrefused, hearlier⟩, -, hmessage⟩ := herror e hload
    refine ⟨e, rfl, ?_⟩
    cases k with
    | buckets =>
      cases hgiven
      exact hmessage
    | procPath =>
      cases hgiven
      cases hrefused
    | initialPath | tickMillis | processName | logBytes | logBackups => cases hgiven
    | threadName => exact absurd (hearlier .buckets (by decide) (.int 0) rfl) (by decide)

def longWidth : ℕ := 3700

def longValue : Toml := .int (16 ^ longWidth)

def longText : List Char :=
  '[' :: (Section.collector.name.toList ++ ']' :: '\n' ::
    (Setting.procPath.key.toList ++ ' ' :: '=' :: ' ' :: (Toml.sixteenText longWidth ++ ['\n'])))

def longDocument : Toml.Entries :=
  [Toml.tableEntry (Section.collector.name, [(Setting.procPath.key, longValue)])]

theorem readDocument_long : Toml.readDocument longText = some longDocument :=
  Toml.readDocument_section (isBare_name .collector) (isBare_key .procPath) rfl
    (Toml.readValue_sixteenText longWidth Toml.maxDepth [])

theorem carriageReturn_not_mem_long : '\r' ∉ longText := by
  have hname := Toml.carriageReturn_not_mem_name (isBare_name .collector)
  have hkey := Toml.carriageReturn_not_mem_name (isBare_key .procPath)
  simp [longText, Toml.sixteenText, hname, hkey]

theorem isReadable_long : IsReadable longDocument := by
  refine isReadable_of_nodup (by simp [longDocument]) fun h v hv => ?_
  obtain ⟨-, rfl⟩ := Prod.mk.inj (List.mem_singleton.mp hv)
  exact ⟨.header, _, rfl, by simp⟩

theorem not_named_in_notWritableMessage :
    ¬ Setting.procPath.key.toList <:+: Number.notWritableMessage.toList := by
  intro h
  have hletter : 'p' ∈ Setting.procPath.key.toList := by decide
  exact absurd (h.subset hletter) (by decide +kernel)

theorem message_of_longNumeral :
    ∃ e, (sampleFile longText).readText samplePath = .ok longText ∧
      Toml.readDocument longText = some longDocument ∧ IsReadable longDocument ∧
      FirstUnsuited longDocument .procPath longValue ∧
      load (sampleFile longText) samplePath = .error e ∧
      ¬ Setting.procPath.key.toList <:+: e.message.toList := by
  have hread := readText_sampleFile carriageReturn_not_mem_long
  have hfirst : FirstUnsuited longDocument .procPath longValue :=
    ⟨rfl, rfl, List.forall_mem_nil _⟩
  have hnumeral : Number.isWritable (16 ^ longWidth) = false :=
    Toml.isWritable_sixteen_pow (m := 615) (n := longWidth) (by decide) (by decide)
  have hwritable : longValue.isWritable = false := by
    rwa [longValue, Toml.isWritable, Toml.hasShortNumerals]
    nofun
  have herror : ofDocument longDocument = .error (Setting.procPath.complaint longValue) :=
    (ofDocument_eq_error_iff isReadable_long).mpr ⟨_, _, hfirst, rfl⟩
  refine ⟨.settings (Setting.procPath.complaint longValue), hread, readDocument_long,
    isReadable_long, hfirst, ?_, ?_⟩
  · rw [load_eq_ofDocument hread readDocument_long, herror]
    rfl
  · have hmessage : (LoadError.settings (Setting.procPath.complaint longValue)).message =
        Number.notWritableMessage :=
      Setting.procPath.message_complaint_of_long hwritable
    exact hmessage ▸ not_named_in_notWritableMessage

end Samples

end Settings

end Residency
