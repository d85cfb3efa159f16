import Residency.EventLog
import Residency.Proofs.Json.Printable
import Residency.Proofs.Records

namespace Residency

theorem Json.membersDepth_append (ms more : List (String × Json)) :
    membersDepth (ms ++ more) = max (membersDepth ms) (membersDepth more) := by
  induction ms with
  | nil => simp [membersDepth]
  | cons m ms ih => simp [membersDepth, ih, Nat.max_assoc]

namespace LogRecord

def reservedNames : List String :=
  ["self", "method_name", "event", "level", "source", "ts", "exc_info", "stack_info",
    "positional_args", "_record", "_from_structlog"]

structure Admissible (r : LogRecord) : Prop where
  event : ∃ text, r.event = .str text
  names : (r.fields.map (·.1)).Nodup
  free : ∀ name ∈ reservedNames, name ∉ r.fields.map (·.1)
  values : ∃ depth, ∀ field ∈ r.fields, field.2.Plain depth
  library : r.source = .library → r.fields = []

def lineMembers (stamp : String) (r : LogRecord) : List (String × Json) :=
  r.fields ++ [("event", r.event), ("ts", .str stamp), ("level", .str r.level.name),
    ("source", .str r.source.name)]

structure IsLineOf (stamp : String) (r : LogRecord) (line : List Char) : Prop where
  printable : ∀ c ∈ line, IsPrintable c
  parses : ∃ depth, Json.readValue depth (2 * line.length + 2) line =
    .ok (.obj (r.lineMembers stamp), [])
  read : (Json.obj (r.lineMembers stamp)).Within Json.maxDepth →
    Json.read (String.ofList line) = .ok (.obj (r.lineMembers stamp))

theorem member?_eq_none {k : String} {ms : List (String × Json)} (h : k ∉ ms.map (·.1)) :
    Json.member? k ms = none := by
  rw [Json.member?, List.lookup_eq_none_iff]
  intro m hm
  rw [bne_iff_ne]
  rintro rfl
  exact h (List.mem_map_of_mem hm)

variable {r : LogRecord} (h : r.Admissible) (stamp : String)
include h

theorem Admissible.ready_eq {host : Host}
    (hdepth : r.isLogged = true → r.depth ≤ host.depth + reportDepth) : r.ready host = .ok r := by
  have hreserved : r.reservedField? = none := by
    rw [reservedField?, List.find?_eq_none.mpr, member?_eq_none (h.free "method_name" (by decide))]
    · rfl
    · rintro ⟨name, v⟩ hm
      rw [decide_eq_true_eq]
      have hname := List.mem_map_of_mem (f := (·.1)) hm
      rintro (rfl | rfl)
      · exact h.free "event" (by decide) hname
      · exact h.free "self" (by decide) hname
  have hfilled : r.filled = .ok r := by
    rw [filled, member?_eq_none (h.free valuesField (by decide))]
  have hreportable : r.reportable host = .ok r := by
    rw [reportable, if_neg]
    simpa using hdepth
  rw [ready, hreserved, hfilled, ok_bind, hreportable]
  split_ifs <;> rfl

theorem Admissible.members_eq : r.members stamp = r.lineMembers stamp := by
  have hvisible : ∀ m ∈ r.fields, (!hiddenFields.contains m.1) = true := by
    intro m hm
    rw [Bool.not_eq_true', ← Bool.not_eq_true, List.contains_iff_mem]
    intro hhidden
    have hreserved : ∀ name ∈ hiddenFields, name ∈ reservedNames := by decide
    exact h.free m.1 (hreserved m.1 hhidden) (List.mem_map_of_mem hm)
  have hevent : r.eventMember r.fields = r.fields ++ [("event", r.event)] := by
    obtain ⟨text, ht⟩ := h.event
    rw [← Json.setMember_of_not_mem _ (h.free "event" (by decide)), eventMember, ht]
    cases r.source <;> rfl
  have hfree : ∀ name ∈ reservedNames, name ∉ r.fields.map (·.1) := h.free
  rw [members, List.filter_eq_self.mpr hvisible, hevent,
    Json.setMember_of_not_mem (k := "ts") _ (by simpa using hfree "ts" (by decide)),
    Json.setMember_of_not_mem (k := "level") _ (by simpa using hfree "level" (by decide)),
    Json.setMember_of_not_mem (k := "source") _ (by simpa using hfree "source" (by decide)),
    lineMembers]
  simp

theorem Admissible.exists_plain : ∃ depth, (Json.obj (r.lineMembers stamp)).Plain depth := by
  obtain ⟨depth, hvalues⟩ := h.values
  obtain ⟨text, ht⟩ := h.event
  refine ⟨depth + 1, Json.plain_obj ?_ ?_⟩
  · have hfree : ∀ name ∈ ["event", "ts", "level", "source"], name ∉ r.fields.map (·.1) :=
      fun name hname => h.free name (by revert name; decide)
    rw [lineMembers, List.map_append, List.nodup_append]
    refine ⟨h.names, by simp, ?_⟩
    rintro name hm other ho rfl
    exact hfree name (by simpa using ho) hm
  · rw [lineMembers, List.forall_mem_append, ht]
    refine ⟨hvalues, ?_⟩
    simp only [List.forall_mem_cons]
    exact ⟨Json.plain_str _, Json.plain_str _, Json.plain_str _, Json.plain_str _, by simp⟩

theorem Admissible.depth_lineMembers : (Json.obj (r.lineMembers stamp)).depth = r.depth := by
  obtain ⟨text, ht⟩ := h.event
  rw [depth, lineMembers, Json.depth, Json.depth, Json.membersDepth_append, ht]
  simp [Json.membersDepth, Json.depth]

theorem Admissible.line?_eq (host : Host) (hdepth : r.depth ≤ host.depth) :
    r.line? host = some ((Json.obj (r.lineMembers host.stamp)).compact ++ ['\n']) := by
  obtain ⟨depth, hplain⟩ := h.exists_plain host.stamp
  obtain ⟨text, ht⟩ := h.event
  have hevent : r.event.depth = 0 := by
    rw [ht]
    rfl
  have hwritable : r.event.isWritable = true := by
    rw [ht]
    rfl
  rw [line?, h.members_eq host.stamp, if_pos]
  simp [Json.isWritable_of_within hplain.within, h.depth_lineMembers, hwritable, hevent, hdepth]

theorem Admissible.line?_eq_none (host : Host) (hdepth : host.depth < r.depth) :
    r.line? host = none := by
  rw [line?, h.members_eq host.stamp, if_neg]
  simp [h.depth_lineMembers, hdepth]

theorem Admissible.isLineOf : IsLineOf stamp r (Json.obj (r.lineMembers stamp)).compact := by
  obtain ⟨depth, hplain⟩ := h.exists_plain stamp
  refine ⟨Json.isPrintable_of_mem_compact hplain.floatFree, ⟨depth, ?_⟩, ?_⟩
  · have hread := Json.readValue_compact hplain.within hplain.floatFree
      (2 * (Json.obj (r.lineMembers stamp)).compact.length + 2) [] (by omega) Json.follows_nil
    rwa [List.append_nil] at hread
  · exact fun hwithin => Json.read_render hwithin hplain.floatFree

end LogRecord

end Residency
