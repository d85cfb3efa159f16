import Residency.CommandLine.Prompt
import Residency.CommandLine.Request
import Residency.Proofs.Lists
import Residency.Proofs.Outcomes

namespace Residency.CommandLine

section Options

variable {c : Command} {arg name : String} {s : Switch}

def OptionReading.switches : OptionReading → List Switch
  | .complete options => options.map (·.1)
  | .needsNext options s _ => options.map (·.1) ++ [s]

theorem eq_of_splitValue (h : splitValue arg = (name, none)) : name = arg := by
  unfold splitValue at h
  dsimp only at h
  split at h
  · cases h
  · next hdrop =>
    cases h
    have hcut := List.takeWhile_prefix (fun ch => decide (ch ≠ '=')) (l := arg.toList)
    rw [hcut.eq_of_length_le (List.drop_eq_nil_iff.mp hdrop), String.ofList_toList]

theorem eq_of_longOption (h : (name, Switch.yes) ∈ c.longOptions) : name = "--yes" := by
  cases c with
  | reset => simpa [Command.longOptions] using h
  | _ => simp [Command.longOptions] at h

theorem shortOption_ne_yes {ch : Char} (h : (ch, s) ∈ c.shortOptions) : s ≠ .yes := by
  cases c with
  | snapshot =>
    cases List.mem_singleton.mp h
    decide
  | _ => cases h

def ShortReading.switches : ShortReading → List Switch
  | .flags switches => switches
  | .value switches s _ | .needsNext switches s _ => switches ++ [s]
  | .unknown _ => []

theorem yes_not_mem_readShort {before : List Switch} (h : Switch.yes ∉ before) (cs : List Char) :
    Switch.yes ∉ (readShort c before cs).switches := by
  induction cs generalizing before with
  | nil => exact h
  | cons ch rest ih =>
    rw [readShort]
    split
    · exact List.not_mem_nil
    · next s hs =>
      have hmore : Switch.yes ∉ before ++ [s] := by
        have hne := shortOption_ne_yes (mem_of_lookup hs)
        simpa [h] using hne.symm
      split_ifs
      · exact ih hmore
      · exact hmore
      · exact hmore

theorem eq_of_readOption {reading : OptionReading} (h : readOption c arg = .ok reading)
    (hyes : Switch.yes ∈ reading.switches) : arg = "--yes" := by
  unfold readOption at h
  rcases hsplit : splitValue arg with ⟨name, value⟩
  rw [hsplit] at h
  dsimp only at h
  -- A long option with a value, a long option alone, and short options.
  split at h
  · next s v hs =>
    split_ifs at h with hvalue
    cases h
    cases List.mem_singleton.mp hyes
    cases hvalue
  · next s hs =>
    cases h
    cases hvalue : s.takesValue with
    | true =>
      rw [hvalue] at hyes
      cases List.mem_singleton.mp hyes
      cases hvalue
    | false =>
      rw [hvalue] at hyes
      cases List.mem_singleton.mp hyes
      rw [← eq_of_splitValue hsplit]
      exact eq_of_longOption (mem_of_lookup hs)
  · split_ifs at h
    have hshort : Switch.yes ∉ (readShort c [] arg.toList.tail).switches :=
      yes_not_mem_readShort List.not_mem_nil _
    split at h
    · cases h
    all_goals
      next hread =>
        cases h
        rw [hread] at hshort
        refine absurd ?_ hshort
        simpa [OptionReading.switches, ShortReading.switches, Function.comp_def] using hyes

def AsksFor (c : Command) (args : List String) (s : Switch) : Prop :=
  ∃ arg ∈ args, ∃ reading, readOption c arg = .ok reading ∧ s ∈ reading.switches

theorem AsksFor.mono {args more : List String} (h : AsksFor c args s) (hargs : args ⊆ more) :
    AsksFor c more s := by
  obtain ⟨arg, harg, hread⟩ := h
  exact ⟨arg, hargs harg, hread⟩

structure IsReadFrom (c : Command) (args : List String) (p : Parsed) : Prop where
  options : ∀ o ∈ p.options, AsksFor c args o.1
  others : p.others ⊆ args

theorem IsReadFrom.withOptions {args rest : List String} {p : Parsed} (h : IsReadFrom c rest p)
    (hrest : rest ⊆ args) {options : List (Switch × String)}
    (hoptions : ∀ o ∈ options, AsksFor c args o.1) :
    IsReadFrom c args { p with options := options ++ p.options } where
  options o ho := by
    rcases List.mem_append.mp ho with ho | ho
    · exact hoptions o ho
    · exact (h.options o ho).mono hrest
  others := List.Subset.trans h.others hrest

theorem isReadFrom_others {args others : List String} (h : others ⊆ args) :
    IsReadFrom c args { others := others } :=
  ⟨fun _ ho => absurd ho List.not_mem_nil, h⟩

theorem isReadFrom_readArguments {args : List String} {p : Parsed}
    (h : readArguments c args = .ok p) : IsReadFrom c args p := by
  induction args using readArguments.induct (c := c) generalizing p with
  | case1 =>
    cases h
    exact isReadFrom_others (List.nil_subset _)
  | case2 rest =>
    rw [readArguments, if_pos rfl] at h
    cases h
    exact isReadFrom_others (List.subset_cons_self _ _)
  | case3 arg rest hdash hoption ih ih' =>
    rw [readArguments, if_neg hdash, if_pos hoption] at h
    obtain ⟨reading, hreading, h⟩ := bind_eq_ok.mp h
    have hfirst {s : Switch} (hs : s ∈ reading.switches) : AsksFor c (arg :: rest) s :=
      ⟨arg, List.mem_cons_self, reading, hreading, hs⟩
    cases reading with
    | complete options =>
      obtain ⟨q, hq, rfl⟩ := map_eq_ok.mp h
      exact (ih hq).withOptions (List.subset_cons_self _ _)
        fun o ho => hfirst (List.mem_map_of_mem ho)
    | needsNext options s name =>
      -- The next argument is the value, whatever it looks like, and asks for nothing.
      cases rest with
      | nil => cases h
      | cons value rest =>
        obtain ⟨q, hq, rfl⟩ := map_eq_ok.mp h
        rw [List.append_cons]
        refine (ih' hq).withOptions (List.subset_cons_of_subset _ (List.subset_cons_self _ _))
          fun o ho => hfirst ?_
        rw [OptionReading.switches]
        simpa using List.mem_map_of_mem (f := Prod.fst) ho
  | case4 arg rest hdash hoption hleaf ih =>
    rw [readArguments, if_neg hdash, if_neg hoption, if_pos hleaf] at h
    obtain ⟨q, hq, rfl⟩ := map_eq_ok.mp h
    exact ⟨fun o ho => ((ih hq).options o ho).mono (List.subset_cons_self _ _),
      List.cons_subset_cons _ (ih hq).others⟩
  | case5 arg rest hdash hoption hleaf =>
    rw [readArguments, if_neg hdash, if_neg hoption, if_neg hleaf] at h
    cases h
    exact isReadFrom_others (List.Subset.refl _)

end Options

section Requests

variable {c : Command} {args : List String} {r : Request}

def IsBacked (args : List String) (r : Request) : Prop :=
  ∀ extra, r = .reset true extra → "--yes" ∈ args

theorem IsBacked.mono {more : List String} (h : IsBacked args r) (hargs : args ⊆ more) :
    IsBacked more r :=
  fun extra hr => hargs (h extra hr)

theorem isBacked_of_page {p : Parsed} (h : p.page? c = some r) : IsBacked args r := by
  obtain ⟨before, o, after, -, ho, -⟩ := List.findSome?_eq_some_iff.mp h
  rintro extra rfl
  rcases o with ⟨_ | _ | _ | _, value⟩ <;> cases ho

theorem isBacked_of_readSnapshot {p : Parsed} (h : readSnapshot p = .ok r) : IsBacked args r := by
  obtain ⟨format, -, h⟩ := bind_eq_ok.mp h
  rintro extra rfl
  split at h
  · cases h
  · split at h
    · cases h
    · split_ifs at h
      cases h

theorem isBacked_of_withoutArguments {p : Parsed} {s : Request} (hs : IsBacked args s)
    (h : withoutArguments p s = .ok r) : IsBacked args r := by
  rw [withoutArguments] at h
  split_ifs at h
  cases h
  exact hs

theorem isBacked_of_readLeaf (h : readLeaf c args = .ok r) : IsBacked args r := by
  obtain ⟨p, hp, h⟩ := bind_eq_ok.mp (mapError_eq_ok.mp h)
  split at h
  · next hpage =>
    cases h
    exact isBacked_of_page hpage
  · cases c with
    | snapshot => exact isBacked_of_readSnapshot h
    | frequencies | «show» => exact isBacked_of_withoutArguments (fun _ hr => by cases hr) h
    | program | config => cases h
    | reset =>
      cases h
      intro extra hr
      obtain ⟨hyes, -⟩ := Request.reset.inj hr
      obtain ⟨value, hvalue⟩ := Option.isSome_iff_exists.mp hyes
      obtain ⟨arg, harg, reading, hread, hmem⟩ :=
        (isReadFrom_readArguments hp).options _ (mem_of_lookup hvalue)
      rwa [← eq_of_readOption hread hmem]

theorem isBacked_of_readGroup {readChild : Command → List String → Except Misuse Request}
    (hchild : ∀ child rest r, readChild child rest = .ok r → IsBacked rest r)
    (h : readGroup c readChild args = .ok r) : IsBacked args r := by
  rw [readGroup] at h
  split_ifs at h
  · cases h
    exact nofun
  · split at h
    · cases h
    · next p hp =>
      have hothers := (isReadFrom_readArguments hp).others
      split at h
      · next hpage =>
        cases h
        exact isBacked_of_page hpage
      · cases h
      · next name rest hnames =>
        rw [hnames] at hothers
        split at h
        · exact (hchild _ _ _ h).mono fun _ hmem => hothers (List.mem_cons_of_mem _ hmem)
        · dsimp only at h
          split_ifs at h
          split at h
          · cases h
          · split at h
            · next hpage =>
              cases h
              exact isBacked_of_page hpage
            · cases h

theorem isBacked_ofArguments (h : Request.ofArguments args = .ok r) : IsBacked args r := by
  refine isBacked_of_readGroup (fun child rest r hread => ?_) h
  cases child with
  | config => exact isBacked_of_readGroup (fun _ _ _ => isBacked_of_readLeaf) hread
  | _ => exact isBacked_of_readLeaf hread

end Requests

section Answers

def SaysYes (line : List Char) : Prop :=
  Text.trim (Text.lowered line) = "y".toList ∨ Text.trim (Text.lowered line) = "yes".toList

def AnswersYes (input : String) : Prop :=
  ∃ before line after, inputLines input = before ++ line :: after ∧ SaysYes line ∧
    ∀ l ∈ before, answer? l = none

theorem answer?_eq_true_iff {line : List Char} : answer? line = some true ↔ SaysYes line := by
  rw [answer?, SaysYes]
  split_ifs with hyes hno
  · exact iff_of_true rfl hyes
  · exact iff_of_false (by simp) hyes
  · exact iff_of_false (by simp) hyes

theorem snd_confirm (lines : List (List Char)) :
    (confirm lines).2 = (lines.findSome? answer?).getD false := by
  induction lines with
  | nil => rfl
  | cons line rest ih =>
    rw [confirm, List.findSome?_cons]
    dsimp only
    cases answer? line with
    | none => exact ih
    | some b => rfl

theorem confirm_iff {input : String} :
    (confirm (inputLines input)).2 = true ↔ AnswersYes input := by
  rw [snd_confirm, AnswersYes]
  simp only [← answer?_eq_true_iff, ← List.findSome?_eq_some_iff]
  rcases (inputLines input).findSome? answer? with _ | _ | _ <;> simp

end Answers

end Residency.CommandLine
