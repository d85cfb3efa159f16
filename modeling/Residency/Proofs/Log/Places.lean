import Residency.Proofs.Renames
import Residency.Proofs.ThreadReadings
import Residency.Settings

namespace Residency

namespace Settings

abbrev logPlace (home : Path) : Path :=
  (logPath home).destination

abbrev backupPlace (home : Path) (n : ℕ) : Path :=
  (backupPath home n).destination

def backupPlaces (home : Path) (n : ℕ) : List Path :=
  (List.range n).map fun k => backupPlace home (k + 1)

def logPlaces (home : Path) (n : ℕ) : List Path :=
  logPlace home :: backupPlaces home n

def backupName (n : ℕ) : String :=
  logName ++ "." ++ String.ofList (Nat.toDigits 10 n)

theorem logPath_eq_child (home : Path) : logPath home = (stateDirectory home).child logName :=
  Path.append_name _ (by decide) (by decide) (by decide)

theorem toList_backupName (n : ℕ) :
    (backupName n).toList = "cpu-residency.log.".toList ++ Nat.toDigits 10 n := by
  simp [backupName, logName]

theorem slash_not_mem_backupName (n : ℕ) : '/' ∉ (backupName n).toList := by
  rw [toList_backupName, List.mem_append, not_or]
  exact ⟨by decide, fun h => absurd (Number.isDigit_of_mem_toDigits _ h) (by decide)⟩

theorem backupName_ne {s : String} (h : s.length ≤ 17) (n : ℕ) : backupName n ≠ s := by
  rintro rfl
  rw [← String.length_toList, toList_backupName, List.length_append] at h
  have hlength : "cpu-residency.log.".toList.length = 18 := by decide
  omega

theorem backupPath_eq_child (home : Path) (n : ℕ) :
    backupPath home n = (stateDirectory home).child (backupName n) :=
  Path.append_name _ (backupName_ne (by decide) n) (backupName_ne (by decide) n)
    (slash_not_mem_backupName n)

theorem logPlace_eq_child (home : Path) :
    logPlace home = (stateDirectory home).destination.child logName := by
  rw [logPlace, logPath_eq_child, Path.destination_child _ (by decide)]

theorem backupPlace_eq_child (home : Path) (n : ℕ) :
    backupPlace home n = (stateDirectory home).destination.child (backupName n) := by
  rw [backupPlace, backupPath_eq_child,
    Path.destination_child _ (backupName_ne (by decide) n)]

theorem backupName_injective : Function.Injective backupName := by
  intro m n h
  have hlists := congrArg String.toList h
  rw [toList_backupName, toList_backupName] at hlists
  rw [← Number.decimalValue_toDigits m, List.append_cancel_left hlists,
    Number.decimalValue_toDigits]

variable {home : Path} {m n : ℕ}

theorem not_isUnder_siblings {dir : Path} {a b : String} (h : a ≠ b) :
    (dir.child a).isUnder (dir.child b) = false := by
  rw [← Bool.not_eq_true]
  exact fun hunder => h (Path.isUnder_siblings hunder)

theorem backup_not_isUnder_backup (h : m ≠ n) :
    (backupPlace home m).isUnder (backupPlace home n) = false := by
  rw [backupPlace_eq_child, backupPlace_eq_child]
  exact not_isUnder_siblings fun hname => h (backupName_injective hname)

theorem backup_not_isUnder_log : (backupPlace home n).isUnder (logPlace home) = false := by
  rw [backupPlace_eq_child, logPlace_eq_child]
  exact not_isUnder_siblings (backupName_ne (by decide) n)

theorem log_not_isUnder_backup : (logPlace home).isUnder (backupPlace home n) = false := by
  rw [backupPlace_eq_child, logPlace_eq_child]
  exact not_isUnder_siblings (backupName_ne (by decide) n).symm

theorem mem_backupPlaces {place : Path} :
    place ∈ backupPlaces home n ↔ ∃ k, 1 ≤ k ∧ k ≤ n ∧ place = backupPlace home k := by
  simp only [backupPlaces, List.mem_map, List.mem_range]
  constructor
  · rintro ⟨k, hk, rfl⟩
    exact ⟨k + 1, by omega, by omega, rfl⟩
  · rintro ⟨k, h1, hk, rfl⟩
    exact ⟨k - 1, by omega, by rw [Nat.sub_add_cancel h1]⟩

theorem exists_child_of_mem_logPlaces {place : Path} (h : place ∈ logPlaces home n) :
    ∃ name, place = (stateDirectory home).destination.child name := by
  rcases List.mem_cons.mp h with rfl | h
  · exact ⟨_, logPlace_eq_child home⟩
  · obtain ⟨k, -, -, rfl⟩ := mem_backupPlaces.mp h
    exact ⟨_, backupPlace_eq_child home k⟩

theorem backupPlaces_subset (h : m ≤ n) : backupPlaces home m ⊆ backupPlaces home n := by
  intro place hplace
  obtain ⟨k, h1, hk, rfl⟩ := mem_backupPlaces.mp hplace
  exact mem_backupPlaces.mpr ⟨k, h1, hk.trans h, rfl⟩

end Settings

end Residency
