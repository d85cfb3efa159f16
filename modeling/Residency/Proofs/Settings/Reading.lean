import Residency.Proofs.SettingsFile

/-!
Settings are read from a document one after another. Each has an outcome of its own, which depends
on nothing but what its section holds under its key. The document gives settings when every outcome
is a value, and the first outcome that is none is what is wrong with the document.
-/
namespace Residency

namespace Setting

def isText : Setting → Bool
  | .procPath | .initialPath | .processName | .threadName => true
  | .buckets | .tickMillis | .logBytes | .logBackups => false

def accepts (k : Setting) : Toml → Bool
  | .str _ => k.isText
  | .int n => !k.isText && k.minimum ≤ n
  | _ => false

def complaint (k : Setting) (v : Toml) : SettingsError :=
  if k.isText then .notString k v
  else match v with
    | .int n => .belowMinimum k n
    | v => .notInteger k v

def earlier (k : Setting) : List Setting :=
  all.takeWhile (· ≠ k)

theorem nodup_all : all.Nodup := by
  decide

theorem earlier_of_all_eq {before after : List Setting} {k : Setting}
    (h : all = before ++ k :: after) : k.earlier = before := by
  have hnodup := nodup_all
  rw [h, List.nodup_middle, List.nodup_cons, List.mem_append, not_or] at hnodup
  rw [earlier, h]
  refine takeWhile_append_cons (fun j hj => ?_) (by simp) after
  rw [decide_eq_true_eq]
  rintro rfl
  exact hnodup.1.1 hj

theorem mem_earlier_or (j k : Setting) : j ∈ k.earlier ∨ j = k ∨ k ∈ j.earlier := by
  cases j <;> cases k <;> decide

end Setting

/-- Whether a value is refused. The other errors are those of looking something up where that cannot
be done. -/
def SettingsError.isRefusal : SettingsError → Bool
  | .notString .. | .notInteger .. | .belowMinimum .. => true
  | .notTable _ | .parts _ => false

def LoadError.isRefusal : LoadError → Bool
  | .text (.encoding _) | .text (.file .embeddedNul) | .malformed _ => true
  | .text (.file (.refused ..)) => false
  | .settings e => e.isRefusal

namespace Settings

def given (document : Toml.Entries) (k : Setting) : Except SettingsError (Option Toml) :=
  (sectionEntries document k.home).bind fun entries => find entries k.key

def taken (k : Setting) : Option Toml → Except SettingsError Toml
  | none => .ok (({} : Settings).written k)
  | some v => if k.accepts v then .ok v else .error (k.complaint v)

def reading (document : Toml.Entries) (k : Setting) : Except SettingsError Toml :=
  (given document k).bind (taken k)

def put (s : Settings) : Setting → Toml → Settings
  | .procPath, .str text => { s with procPath := text }
  | .initialPath, .str text => { s with initialPath := text }
  | .buckets, .int n => { s with buckets := n }
  | .tickMillis, .int n => { s with tickMillis := n }
  | .processName, .str text => { s with processName := text }
  | .threadName, .str text => { s with threadName := text }
  | .logBytes, .int n => { s with logBytes := n }
  | .logBackups, .int n => { s with logBackups := n }
  | _, _ => s

theorem written_injective {s s' : Settings} (h : ∀ k, s.written k = s'.written k) : s = s' := by
  have hproc := h .procPath
  have hinitial := h .initialPath
  have hbuckets := h .buckets
  have htick := h .tickMillis
  have hprocess := h .processName
  have hthread := h .threadName
  have hbytes := h .logBytes
  have hbackups := h .logBackups
  simp only [written, Toml.str.injEq, Toml.int.injEq] at *
  cases s
  cases s'
  simp_all

theorem written_put_of_ne (s : Settings) {j k : Setting} (v : Toml) (h : j ≠ k) :
    (s.put k v).written j = s.written j := by
  cases k <;> cases v <;> first | rfl | (cases j <;> first | rfl | exact absurd rfl h)

theorem written_put_self (s : Settings) {k : Setting} {v : Toml} (h : k.accepts v = true) :
    (s.put k v).written k = v := by
  cases v with
  | str text => cases k <;> first | rfl | cases h
  | int n => cases k <;> first | rfl | cases h
  | _ => cases h

theorem accepts_default (k : Setting) : k.accepts (({} : Settings).written k) = true := by
  cases k <;> rfl

section Document

variable (document : Toml.Entries)

theorem reading_eq_ok {k : Setting} {v : Toml} : reading document k = .ok v ↔
    given document k = .ok none ∧ v = ({} : Settings).written k ∨
      given document k = .ok (some v) ∧ k.accepts v = true := by
  rw [reading, bind_eq_ok]
  constructor
  · rintro ⟨found, hfound, h⟩
    cases found with
    | none =>
      cases h
      exact .inl ⟨hfound, rfl⟩
    | some w =>
      rw [taken] at h
      split_ifs at h with haccepts
      cases h
      exact .inr ⟨hfound, haccepts⟩
  · rintro (⟨hfound, rfl⟩ | ⟨hfound, haccepts⟩)
    · exact ⟨none, hfound, rfl⟩
    · exact ⟨some v, hfound, if_pos haccepts⟩

theorem reading_eq_error {k : Setting} {e : SettingsError} : reading document k = .error e ↔
    given document k = .error e ∨
      ∃ v, given document k = .ok (some v) ∧ k.accepts v = false ∧ e = k.complaint v := by
  rw [reading]
  rcases given document k with e' | (_ | v)
  · simp [Except.bind]
  · simp [Except.bind, taken]
  · change taken k (some v) = .error e ↔ _
    rw [taken]
    split_ifs with haccepts
    · simp [haccepts]
    · rw [Bool.not_eq_true] at haccepts
      simp only [Except.error.injEq, Except.ok.injEq, Option.some.injEq,
        exists_eq_left', haccepts, true_and, false_or]
      exact eq_comm

variable {document}

theorem accepts_of_reading {k : Setting} {v : Toml} (h : reading document k = .ok v) :
    k.accepts v = true := by
  rcases (reading_eq_ok document).mp h with ⟨-, rfl⟩ | ⟨-, haccepts⟩
  · exact accepts_default k
  · exact haccepts

section Entries

variable {entries : Toml.Entries} {k : Setting} (s : Settings)
  (h : sectionEntries document k.home = .ok entries)
include h

theorem map_put_reading_text {default : String} (htext : k.isText = true)
    (hdefault : ({} : Settings).written k = .str default) :
    (reading document k).map (s.put k) =
      (readString entries k default).map fun text => s.put k (.str text) := by
  rw [reading, given, h, ok_bind, readString]
  rcases find entries k.key with e | (_ | v)
  · rfl
  · change Except.ok (s.put k (({} : Settings).written k)) = _
    rw [hdefault]
    rfl
  · cases v <;> simp [Except.bind, taken, Setting.accepts, Setting.complaint, htext] <;> rfl

theorem map_put_reading_number {default : ℤ} (htext : k.isText = false)
    (hdefault : ({} : Settings).written k = .int default) :
    (reading document k).map (s.put k) =
      (readNumber entries k default).map fun n => s.put k (.int n) := by
  rw [reading, given, h, ok_bind, readNumber]
  cases find entries k.key with
  | error e => rfl
  | ok found =>
    rw [ok_bind, ok_bind_eq]
    cases found with
    | none =>
      rw [taken, hdefault]
      rfl
    | some v => cases v with
      | int n =>
        dsimp only
        by_cases hn : n < k.minimum
        · have hrefused : k.accepts (.int n) = false := by simp [Setting.accepts, hn]
          rw [if_pos hn, taken, hrefused, Setting.complaint, htext]
          rfl
        · have haccepts : k.accepts (.int n) = true := by
            simp [Setting.accepts, htext, not_lt.mp hn]
          rw [if_neg hn, taken, haccepts]
          rfl
      | _ =>
        simp only [taken, Setting.accepts, Setting.complaint, htext, Bool.false_eq_true, if_false]
        rfl

end Entries

theorem reading_of_sectionEntries_error {k : Setting} {e : SettingsError}
    (h : sectionEntries document k.home = .error e) : reading document k = .error e := by
  rw [reading, given, h]
  rfl

theorem ofDocument_eq_foldlM (document : Toml.Entries) : ofDocument document =
    Setting.all.foldlM (fun s k => (reading document k).map (s.put k)) {} := by
  simp only [Setting.all, List.foldlM_cons, List.foldlM_nil]
  unfold ofDocument
  cases hcollector : sectionEntries document .collector with
  | error e =>
    rw [reading_of_sectionEntries_error (k := .procPath) hcollector]
    rfl
  | ok entries =>
    rw [ok_bind_eq, map_put_reading_text (k := .procPath) _ hcollector rfl rfl]
    refine bind_eq_map_bind fun procPath => ?_
    rw [map_put_reading_text (k := .initialPath) _ hcollector rfl rfl]
    refine bind_eq_map_bind fun initialPath => ?_
    rw [map_put_reading_number (k := .buckets) _ hcollector rfl rfl]
    refine bind_eq_map_bind fun buckets => ?_
    rw [map_put_reading_number (k := .tickMillis) _ hcollector rfl rfl]
    refine bind_eq_map_bind fun tickMillis => ?_
    cases hnames : sectionEntries document .names with
    | error e =>
      rw [reading_of_sectionEntries_error (k := .processName) hnames]
      rfl
    | ok entries =>
      rw [ok_bind_eq, map_put_reading_text (k := .processName) _ hnames rfl rfl]
      refine bind_eq_map_bind fun processName => ?_
      rw [map_put_reading_text (k := .threadName) _ hnames rfl rfl]
      refine bind_eq_map_bind fun threadName => ?_
      cases hlogging : sectionEntries document .logging with
      | error e =>
        rw [reading_of_sectionEntries_error (k := .logBytes) hlogging]
        rfl
      | ok entries =>
        rw [ok_bind_eq, map_put_reading_number (k := .logBytes) _ hlogging rfl rfl]
        refine bind_eq_map_bind fun logBytes => ?_
        rw [map_put_reading_number (k := .logBackups) _ hlogging rfl rfl]
        refine bind_eq_map_bind fun logBackups => ?_
        rfl

variable (document) in
theorem foldlM_put {l : List Setting} (hl : l.Nodup) (s : Settings) :
    (∃ s', l.foldlM (fun s k => (reading document k).map (s.put k)) s = .ok s' ∧
      (∀ k ∈ l, reading document k = .ok (s'.written k)) ∧ ∀ k ∉ l, s'.written k = s.written k) ∨
    ∃ before k after e, l = before ++ k :: after ∧
      (∀ j ∈ before, ∃ v, reading document j = .ok v) ∧ reading document k = .error e ∧
      l.foldlM (fun s k => (reading document k).map (s.put k)) s = .error e := by
  induction l generalizing s with
  | nil => exact .inl ⟨s, rfl, by simp, fun _ _ => rfl⟩
  | cons k l ih =>
    obtain ⟨hk, hl⟩ := List.nodup_cons.mp hl
    rw [List.foldlM_cons]
    cases hread : reading document k with
    | error e => exact .inr ⟨[], k, l, e, rfl, by simp, hread, rfl⟩
    | ok v =>
      rcases ih hl (s.put k v) with ⟨s', hs', hin, hout⟩ | ⟨before, j, after, e, rfl, hin, hj, he⟩
      · refine .inl ⟨s', hs', ?_, ?_⟩
        · rw [List.forall_mem_cons, hread, hout k hk,
            written_put_self s (accepts_of_reading hread)]
          exact ⟨rfl, hin⟩
        · intro j hj
          obtain ⟨hne, hj⟩ := List.ne_and_not_mem_of_not_mem_cons hj
          rw [hout j hj, written_put_of_ne s v hne]
      · have hbefore := List.forall_mem_cons.mpr ⟨⟨v, hread⟩, hin⟩
        exact .inr ⟨k :: before, j, after, e, rfl, hbefore, hj, he⟩

theorem ofDocument_cases (document : Toml.Entries) :
    (∃ s, ofDocument document = .ok s ∧ ∀ k, reading document k = .ok (s.written k)) ∨
    ∃ k e, ofDocument document = .error e ∧
      (∀ j ∈ k.earlier, ∃ v, reading document j = .ok v) ∧ reading document k = .error e := by
  rw [ofDocument_eq_foldlM]
  rcases foldlM_put document Setting.nodup_all {} with
    ⟨s, hs, hin, -⟩ | ⟨before, k, after, e, hall, hin, hk, he⟩
  · exact .inl ⟨s, hs, fun k => hin k k.mem_all⟩
  · exact .inr ⟨k, e, he, Setting.earlier_of_all_eq hall ▸ hin, hk⟩

theorem ofDocument_eq_ok {s : Settings} :
    ofDocument document = .ok s ↔ ∀ k, reading document k = .ok (s.written k) := by
  rcases ofDocument_cases document with ⟨s', hs', hread⟩ | ⟨k, e, he, -, hk⟩
  · rw [hs', Except.ok.injEq]
    constructor
    · rintro rfl
      exact hread
    · intro h
      exact written_injective fun k => Except.ok.inj ((hread k).symm.trans (h k))
  · rw [he]
    refine ⟨nofun, fun h => ?_⟩
    cases hk.symm.trans (h k)

theorem ofDocument_eq_error {e : SettingsError} : ofDocument document = .error e ↔
    ∃ k, (∀ j ∈ k.earlier, ∃ v, reading document j = .ok v) ∧ reading document k = .error e := by
  rcases ofDocument_cases document with ⟨s, hs, hread⟩ | ⟨k, e', he, hearlier, hk⟩
  · rw [hs]
    refine ⟨nofun, fun ⟨k, _, hk⟩ => ?_⟩
    cases hk.symm.trans (hread k)
  · rw [he, Except.error.injEq]
    constructor
    · rintro rfl
      exact ⟨k, hearlier, hk⟩
    · rintro ⟨j, hjs, hj⟩
      rcases Setting.mem_earlier_or j k with hmem | rfl | hmem
      · obtain ⟨v, hv⟩ := hearlier j hmem
        cases hj.symm.trans hv
      · cases hk.symm.trans hj
        rfl
      · obtain ⟨v, hv⟩ := hjs k hmem
        cases hk.symm.trans hv

end Document

end Settings

end Residency
