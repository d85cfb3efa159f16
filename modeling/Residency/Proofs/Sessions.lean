import Residency.Proofs.CheckedParameters
import Residency.Proofs.Conservation
import Residency.Session

namespace Residency

def Step.makesCollector : Step → Bool
  | .newCollector _ | .startCollector _ => true
  | _ => false

def Step.asksUsage : Step → Bool
  | .usage .. | .pidUsage .. | .currentUsage => true
  | _ => false

namespace Session

structure KeepsCollector (s s' : Session) : Prop where
  host : s'.host = s.host
  collector : s'.collector = s.collector

theorem KeepsCollector.refl (s : Session) : KeepsCollector s s := ⟨rfl, rfl⟩

theorem KeepsCollector.trans {s s' s'' : Session} (h : KeepsCollector s s')
    (h' : KeepsCollector s' s'') : KeepsCollector s s'' :=
  ⟨h'.host.trans h.host, h'.collector.trans h.collector⟩

theorem usageAnswer_fst (s : Session) (operation : String)
    (f : StatsSource → DraftCollector →
      List Event × Except DraftCollectorError (Option ProcessRecord)) :
    (s.usageAnswer operation f).1 = s := by
  unfold usageAnswer
  split <;> rfl

theorem keepsCollector_save (s : Session) (path : Path) : KeepsCollector s (s.save path).1 := by
  unfold save
  rcases s.draft.save s.tree path with ⟨tree, e | ⟨⟩⟩
  · exact ⟨rfl, rfl⟩
  · exact ⟨rfl, rfl⟩

theorem keepsCollector_log (s : Session) (records : List LogRecord) :
    KeepsCollector s (s.log records).1 := by
  unfold log
  rcases s.tree.openLog s.host.home (s.draft.value .logBytes) with ⟨tree, e | ⟨⟩⟩
  · exact ⟨rfl, rfl⟩
  · exact ⟨rfl, rfl⟩

theorem keepsCollector_step (s : Session) {step : Step} (h : step.makesCollector = false) :
    KeepsCollector s (s.step step).1 := by
  cases step with
  | newCollector parameters => cases h
  | startCollector load => cases h
  | write path entry =>
    rw [Session.step]
    cases s.tree.place path entry <;> exact ⟨rfl, rfl⟩
  | newReader path tick =>
    rw [Session.step]
    cases TableReader.create? (s.source s.origin) path tick <;> exact ⟨rfl, rfl⟩
  | readTimes path =>
    rw [Session.step]
    cases s.reader <;> exact ⟨rfl, rfl⟩
  | describeCollector =>
    rw [Session.step]
    cases s.collector <;> exact .refl s
  | usage path pid uid => exact (usageAnswer_fst s _ _).symm ▸ .refl s
  | pidUsage pid uid => exact (usageAnswer_fst s _ _).symm ▸ .refl s
  | currentUsage => exact (usageAnswer_fst s _ _).symm ▸ .refl s
  | loadSettings path =>
    rw [Session.step]
    cases Settings.load s.tree (path.getD (Settings.filePath s.host.home)) <;> exact ⟨rfl, rfl⟩
  | setSetting group key v =>
    rw [Session.step]
    cases Setting.find? group key with
    | some setting => exact ⟨rfl, rfl⟩
    | none =>
      dsimp only
      split <;> exact .refl s
  | saveSettings path => exact keepsCollector_save s _
  | notify n =>
    rw [Session.step]
    cases n.line s.host.columns s.host.clock <;> exact .refl s
  | log records => exact keepsCollector_log s records
  | _ => exact ⟨rfl, rfl⟩

theorem keepsCollector_steps (s : Session) {l : List Step}
    (h : ∀ step ∈ l, step.makesCollector = false) : KeepsCollector s (s.steps l).1 := by
  induction l generalizing s with
  | nil => exact .refl s
  | cons step rest ih =>
    have hstep := keepsCollector_step s (h step (by simp))
    exact hstep.trans (ih _ fun other ho => h other (by simp [ho]))

def untouched (s : Session) (tree : FileTree) (data : Option StatsTable) : Session :=
  { host := s.host, tree := tree, data := data, collector := s.collector }

theorem usageAnswer_congr {s s' : Session} (hcollector : s'.collector = s.collector)
    (hsource : ∀ origin, s'.source origin = s.source origin) (operation : String)
    (f : StatsSource → DraftCollector →
      List Event × Except DraftCollectorError (Option ProcessRecord)) :
    (s'.usageAnswer operation f).2 = (s.usageAnswer operation f).2 := by
  unfold usageAnswer
  rw [hcollector]
  cases s.collector with
  | none => rfl
  | some made =>
    dsimp only
    rw [hsource]

theorem source_untouched (s s' : Session) (origin : DataOrigin) :
    s'.source origin = (s.untouched s'.tree s'.data).source origin := by
  cases origin <;> rfl

theorem asked_untouched {s s' : Session} (h : KeepsCollector s s') {call : Step}
    (hcall : call.asksUsage = true) :
    (s'.step call).2 = ((s.untouched s'.tree s'.data).step call).2 := by
  have hhost : (s.untouched s'.tree s'.data).host = s.host := rfl
  have hanswer := usageAnswer_congr (s := s.untouched s'.tree s'.data) h.collector
    (source_untouched s s')
  cases call with
  | usage path pid uid => exact hanswer _ _
  | pidUsage pid uid =>
    rw [Session.step, Session.step, hhost, h.host]
    exact hanswer _ _
  | currentUsage =>
    rw [Session.step, Session.step, hhost, h.host]
    exact hanswer _ _
  | _ => cases hcall

theorem collector_fixed (s : Session) {l : List Step}
    (h : ∀ step ∈ l, step.makesCollector = false) :
    (s.steps l).1.collector = s.collector ∧
      ∀ call : Step, call.asksUsage = true →
        ((s.steps l).1.step call).2 =
          ((s.untouched (s.steps l).1.tree (s.steps l).1.data).step call).2 :=
  ⟨(keepsCollector_steps s h).collector,
    fun _ hcall => asked_untouched (keepsCollector_steps s h) hcall⟩

def treeSession : Session :=
  { host := { pid := 9, uid := 1000, clock := "00:00:00", home := .ofString "home",
              owner := fun _ => .gone }
    tree := Collector.processTree
    collector := some (.files, Collector.treeCollector.toDraft) }

def rewritingSteps : List Step :=
  [.write Collector.treeOptions.initial (.file (Text.Utf8.encode "7 1\n".toList)),
    .setSetting "collector" "num_buckets" (.json (.int 1)), .saveSettings none, .loadSettings none,
    .newReader Collector.treeOptions.initial (.int 1), .currentUsage,
    .remove (Collector.treeProcess.threadFile "7" "time_in_state"), .run ["frequencies"] ""]

theorem collector_fixed_while_rewritten :
    (treeSession.steps rewritingSteps).1.collector =
        some (.files, Collector.treeCollector.toDraft) ∧
      ((treeSession.steps rewritingSteps).1.step (.pidUsage (.int 9) (some (.int 0)))).2 =
        ((treeSession.untouched (treeSession.steps rewritingSteps).1.tree
          (treeSession.steps rewritingSteps).1.data).step
            (.pidUsage (.int 9) (some (.int 0)))).2 := by
  obtain ⟨hcollector, hanswers⟩ :=
    collector_fixed treeSession (l := rewritingSteps)
      (by simp [rewritingSteps, Step.makesCollector])
  exact ⟨hcollector, hanswers (.pidUsage (.int 9) (some (.int 0))) rfl⟩

end Session

end Residency
