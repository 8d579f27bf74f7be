import MeshSidecar.Proofs.Agent.Steps

/-!
# Generations with their records and files

The processes are numbered in the order of their launches, and the epoch of a process is its
number. An agent is `AgentState.Sound` if each process has what the stage of its reaper calls
for: a record and a file until it was waited for and still when its reaper looks for the file,
only a record once the file was removed, and neither in the end. Every step of a reaper, every
end of a process and every step of a reload keeps it that way, since distinct epochs never share
a file.
-/

namespace MeshSidecar

/-- What stands in a list to which an item was added stood there before, or is the item. -/
theorem getElem?_of_concat {α : Type} {items : List α} {last item : α} {position : Nat}
    (h : (items ++ [last])[position]? = some item) :
    items[position]? = some item ∨ position = items.length ∧ item = last := by
  rw [List.getElem?_append] at h
  by_cases hlt : position < items.length
  · rw [if_pos hlt] at h
    exact Or.inl h
  · rw [if_neg hlt, List.getElem?_singleton] at h
    by_cases hzero : position - items.length = 0
    · rw [if_pos hzero] at h
      have hlength : position = items.length :=
        Nat.le_antisymm (Nat.sub_eq_zero_iff_le.mp hzero) (Nat.le_of_not_lt hlt)
      exact Or.inr ⟨hlength, (Option.some.inj h).symm⟩
    · rw [if_neg hzero] at h
      exact nomatch h

namespace AgentState

/-- A process is on record under an epoch. -/
def OnRecord (state : AgentState) (pid : ProcessId) (epoch : Epoch) : Prop :=
  ⟨epoch, pid, configName epoch⟩ ∈ state.records

/-- What there is of a process when its reaper has come to a stage, if it was launched with a
    content of its file. A process that was just launched is not enrolled yet. -/
def Keeps (state : AgentState) (enrolled : Prop) (pid : ProcessId) (epoch : Epoch)
    (content : Bytes) : ReapStage → Prop
  | .waiting | .released =>
      (enrolled → state.OnRecord pid epoch) ∧ state.fileOf epoch = some (.file content)
  | .removing config =>
      enrolled ∧ state.OnRecord pid epoch ∧ config = configName epoch ∧
        state.fileOf epoch = some (.file content)
  | .forgetting => enrolled ∧ state.OnRecord pid epoch ∧ state.fileOf epoch = none
  | .done => enrolled ∧ ¬ state.OnRecord pid epoch ∧ state.fileOf epoch = none

/-- An agent that launched processes with some configurations, of which the first ones are
    enrolled, and may have written a draft for the next one. -/
structure Sound (state : AgentState) (launched : List Config) (enrolled : Nat)
    (draft : Option Config) : Prop where
  count : state.processes.length = launched.length
  enrolled_le : enrolled ≤ launched.length
  epochs : ∀ (pid : ProcessId) (process : Process), state.processes[pid]? = some process →
    process.epoch.toNat = pid
  ended : ∀ (pid : ProcessId) (process : Process), state.processes[pid]? = some process →
    process.reaper ≠ .waiting → (state.ended? process).isSome
  keeps : ∀ (pid : ProcessId) (process : Process) (config : Config),
    state.processes[pid]? = some process → launched[pid]? = some config →
      state.Keeps (pid < enrolled) pid process.epoch (Text.bytes config.text) process.reaper
  records : ∀ record ∈ state.records, record.pid < enrolled ∧
    record.epoch.toNat = record.pid ∧ record.config = configName record.epoch
  ascending : state.records.Pairwise fun a b => a.pid < b.pid
  spare : ∀ epoch : Epoch, launched.length ≤ epoch.toNat → state.fileOf epoch =
    if epoch.toNat = launched.length then
      draft.map fun config => .file (Text.bytes config.text)
    else none

variable {state after : AgentState} {launched : List Config} {enrolled : Nat}
  {draft : Option Config}

/-- What there is of a process depends on its own record and file only. -/
theorem keeps_congr (state : AgentState) {before now : Prop} {pid : ProcessId} {epoch : Epoch}
    {content : Bytes}
    (henrolled : now ↔ before) (hrecord : after.OnRecord pid epoch ↔ state.OnRecord pid epoch)
    (hfile : after.fileOf epoch = state.fileOf epoch) (stage : ReapStage) :
    after.Keeps now pid epoch content stage ↔ state.Keeps before pid epoch content stage := by
  cases stage <;> simp only [Keeps, henrolled, hrecord, hfile]

/-- What has ended stays so as time passes. -/
theorem ended_mono (hnow : state.now ≤ after.now) {process : Process}
    (h : (state.ended? process).isSome = true) : (after.ended? process).isSome = true := by
  rw [ended?] at h ⊢
  split at h
  · split at h
    · rename_i hle
      rw [if_pos (Nat.le_trans hle hnow)]
      rfl
    · exact nomatch h
  · exact nomatch h

namespace Sound

/-- A process has a number below that of the next one. -/
theorem pid_lt (h : state.Sound launched enrolled draft) {pid : ProcessId} {process : Process}
    (hprocess : state.processes[pid]? = some process) : pid < launched.length :=
  h.count ▸ (List.getElem?_eq_some_iff.mp hprocess).1

/-- Another process has another epoch. -/
theorem epoch_ne (h : state.Sound launched enrolled draft) {pid other : ProcessId}
    {process others : Process} (hprocess : state.processes[pid]? = some process)
    (hother : state.processes[other]? = some others) (hne : pid ≠ other) :
    process.epoch ≠ others.epoch := by
  intro heq
  refine hne ?_
  rw [← h.epochs pid process hprocess, ← h.epochs other others hother, heq]

/-- A record under the epoch of a process is that of the process. -/
theorem onRecord_of_mem (h : state.Sound launched enrolled draft) {pid : ProcessId}
    {process : Process} (hprocess : state.processes[pid]? = some process)
    {record : ProcessRecord} (hrecord : record ∈ state.records)
    (hepoch : record.epoch = process.epoch) :
    record.config = configName process.epoch ∧ state.OnRecord pid process.epoch := by
  obtain ⟨-, hpid, hconfig⟩ := h.records record hrecord
  rw [hepoch] at hconfig
  rw [hepoch, h.epochs pid process hprocess] at hpid
  refine ⟨hconfig, ?_⟩
  show (⟨process.epoch, pid, configName process.epoch⟩ : ProcessRecord) ∈ state.records
  rw [← hconfig, ← hepoch, hpid]
  exact hrecord

/-- Soundness is about the processes, the records and the files. -/
theorem congr (h : state.Sound launched enrolled draft)
    (hprocesses : after.processes = state.processes) (hrecords : after.records = state.records)
    (hnow : state.now ≤ after.now) (hfiles : ∀ epoch, after.fileOf epoch = state.fileOf epoch) :
    after.Sound launched enrolled draft where
  count := hprocesses ▸ h.count
  enrolled_le := h.enrolled_le
  epochs := hprocesses ▸ h.epochs
  ended := by
    intro pid process hprocess hreaper
    rw [hprocesses] at hprocess
    exact ended_mono hnow (h.ended pid process hprocess hreaper)
  keeps := by
    intro pid process config hprocess hconfig
    rw [hprocesses] at hprocess
    have hkeeps := h.keeps pid process config hprocess hconfig
    refine (keeps_congr state Iff.rfl ?_ (hfiles _) _).mpr hkeeps
    rw [OnRecord, OnRecord, hrecords]
  records := hrecords ▸ h.records
  ascending := hrecords ▸ h.ascending
  spare := fun epoch hle => (hfiles epoch).trans (h.spare epoch hle)

/-- A change of one process keeps the agent sound if the process keeps its epoch, has ended if
    its reaper no longer waits, and has what its reaper calls for. Its own record and file may
    change with it. -/
theorem modify (h : state.Sound launched enrolled draft) {pid : ProcessId} {f : Process → Process}
    (hprocesses : after.processes = state.processes.modify pid f) (hnow : state.now ≤ after.now)
    (hrecords : after.records.Sublist state.records)
    (hothers : ∀ other epoch, pid ≠ other →
      (after.OnRecord other epoch ↔ state.OnRecord other epoch))
    (hfiles : ∀ epoch, (∀ process, state.processes[pid]? = some process → process.epoch ≠ epoch) →
      after.fileOf epoch = state.fileOf epoch)
    (hepoch : ∀ process, (f process).epoch = process.epoch)
    (hended : ∀ process, state.processes[pid]? = some process → (f process).reaper ≠ .waiting →
      (after.ended? (f process)).isSome)
    (hkeeps : ∀ process content, state.processes[pid]? = some process →
      state.Keeps (pid < enrolled) pid process.epoch content process.reaper →
      after.Keeps (pid < enrolled) pid process.epoch content (f process).reaper) :
    after.Sound launched enrolled draft := by
  -- what stands at a position afterwards stood there before, or was changed
  have hold : ∀ (other : ProcessId) (process : Process), after.processes[other]? = some process →
      ∃ old, state.processes[other]? = some old ∧
        (pid ≠ other ∧ process = old ∨ pid = other ∧ process = f old) := by
    intro other process hprocess
    rw [hprocesses, List.getElem?_modify] at hprocess
    obtain ⟨old, hold, heq⟩ := Option.map_eq_some_iff.mp hprocess
    by_cases hpid : pid = other
    · rw [if_pos hpid] at heq
      exact ⟨old, hold, Or.inr ⟨hpid, heq.symm⟩⟩
    · rw [if_neg hpid] at heq
      exact ⟨old, hold, Or.inl ⟨hpid, heq.symm⟩⟩
  constructor
  case count => rw [hprocesses, List.length_modify, h.count]
  case enrolled_le => exact h.enrolled_le
  case epochs =>
    intro other process hprocess
    obtain ⟨old, hget, ⟨-, rfl⟩ | ⟨-, rfl⟩⟩ := hold other process hprocess
    · exact h.epochs other process hget
    · rw [hepoch]
      exact h.epochs other old hget
  case ended =>
    intro other process hprocess hreaper
    obtain ⟨old, hget, ⟨-, rfl⟩ | ⟨rfl, rfl⟩⟩ := hold other process hprocess
    · exact ended_mono hnow (h.ended other process hget hreaper)
    · exact hended old hget hreaper
  case keeps =>
    intro other process config hprocess hconfig
    obtain ⟨old, hget, ⟨hne, rfl⟩ | ⟨rfl, rfl⟩⟩ := hold other process hprocess
    · have hfile := hfiles process.epoch fun own hown => h.epoch_ne hown hget hne
      exact (keeps_congr state Iff.rfl (hothers other _ hne) hfile _).mpr
        (h.keeps other process config hget hconfig)
    · rw [hepoch]
      exact hkeeps old _ hget (h.keeps pid old config hget hconfig)
  case records => exact fun record hrecord => h.records record (hrecords.subset hrecord)
  case ascending => exact h.ascending.sublist hrecords
  case spare =>
    intro epoch hle
    refine (hfiles epoch fun process hprocess heq => ?_).trans (h.spare epoch hle)
    have hlt := h.pid_lt hprocess
    rw [← h.epochs pid process hprocess, heq] at hlt
    exact Nat.not_lt_of_le hle hlt

/-- A process that ends still has what its reaper calls for. -/
theorem onlyEnds (h : state.Sound launched enrolled draft) (pid : ProcessId)
    {f : Process → Process} (hf : state.OnlyEnds f) :
    (state.modifyProcess pid f).Sound launched enrolled draft := by
  refine h.modify rfl (Nat.le_refl _) (List.Sublist.refl _) (fun _ _ _ => Iff.rfl)
    (fun _ _ => rfl) (fun process => (hf process).1) ?_ ?_
  · intro process hprocess hreaper
    obtain ⟨-, hsame, hended⟩ := hf process
    exact hended (h.ended pid process hprocess (hsame ▸ hreaper))
  · intro process content _ hkeeps
    rw [(hf process).2.1]
    exact hkeeps

-- ── Reloads ─────────────────────────────────────────────────────────────────

/-- The file of the next epoch belongs to no process, so it may be written and removed. -/
theorem redraft (h : state.Sound launched enrolled draft) {directory : Directory} {epoch : Epoch}
    (hepoch : epoch.toNat = launched.length) {redrafted : Option Config}
    (hown : directory.entries.get? (configName epoch) =
      redrafted.map fun config => .file (Text.bytes config.text))
    (hother : ∀ other, epoch ≠ other →
      directory.entries.get? (configName other) = state.fileOf other) :
    { state with directory := directory }.Sound launched enrolled redrafted where
  count := h.count
  enrolled_le := h.enrolled_le
  epochs := h.epochs
  ended := h.ended
  keeps := by
    intro pid process config hprocess hconfig
    have hne : epoch ≠ process.epoch := by
      rintro rfl
      have hlt := h.pid_lt hprocess
      rw [← hepoch, h.epochs pid process hprocess] at hlt
      exact Nat.lt_irrefl _ hlt
    refine (keeps_congr state Iff.rfl ?_ ?_ _).mpr (h.keeps pid process config hprocess hconfig)
    · exact Iff.rfl
    · exact hother process.epoch hne
  records := h.records
  ascending := h.ascending
  spare := by
    intro other hle
    by_cases heq : epoch = other
    · subst heq
      rw [if_pos hepoch]
      exact hown
    · have hne : other.toNat ≠ launched.length := fun hother =>
        heq (UInt32.toNat_inj.mp (hepoch.trans hother.symm))
      have hspare := h.spare other hle
      rw [if_neg hne] at hspare ⊢
      exact (hother other heq).trans hspare

/-- A draft is written. -/
theorem write (h : state.Sound launched enrolled draft)
    (hepoch : state.epoch.toNat = launched.length) {config : Config}
    (hwrite : state.writeConfig config = (after, none)) :
    after.Sound launched enrolled (some config) := by
  have hfiles := fileOf_of_writeConfig hwrite
  obtain ⟨directory, rfl, -⟩ := writeConfig_eq hwrite
  refine h.redraft hepoch ?_ fun other hne => ?_
  · exact (hfiles state.epoch).trans (if_pos rfl)
  · exact (hfiles other).trans (if_neg hne)

/-- A draft that cannot be written is not there. -/
theorem writeFails (h : state.Sound launched enrolled draft)
    (hepoch : state.epoch.toNat = launched.length) {config : Config} {error : Option HostError}
    (hwrite : state.writeConfig config = (after, error))
    (hclean : after.fileOf state.epoch = none) :
    after.Sound launched enrolled none := by
  have hfiles : ∀ other, state.epoch ≠ other → after.fileOf other = state.fileOf other :=
    fun _ => fileOf_of_writeConfig_ne hwrite
  obtain ⟨directory, rfl, -⟩ := writeConfig_eq hwrite
  exact h.redraft hepoch hclean hfiles

/-- A draft is taken back. -/
theorem withdraw {config : Config} (h : state.Sound launched enrolled (some config))
    {epoch : Epoch} (hepoch : epoch.toNat = launched.length)
    (hallowed : state.directory.refusalOf (configName epoch) = none) :
    (state.removeConfig (configName epoch)).Sound launched enrolled none := by
  have hfile : state.fileOf epoch = some (.file (Text.bytes config.text)) := by
    rw [h.spare epoch (Nat.le_of_eq hepoch.symm), if_pos hepoch]
    rfl
  obtain ⟨directory, heq, hfiles⟩ := removeConfig_eq hallowed hfile
  rw [heq]
  refine h.redraft hepoch ?_ fun other hne => ?_
  · exact (hfiles epoch).trans (if_pos rfl)
  · exact (hfiles other).trans (if_neg hne)

/-- A process that is launched has the draft as its file. -/
theorem launch {config : Config} (h : state.Sound launched enrolled (some config))
    (hepoch : state.epoch.toNat = launched.length) (stopsAfter : Option Nat) :
    { state with
      processes := state.processes ++ [Process.mk state.epoch stopsAfter none .waiting] }.Sound
      (launched ++ [config]) enrolled none := by
  -- a process is one from before, or the new one, whose number is that of its configuration
  have hold : ∀ (pid : ProcessId) (process : Process),
      (state.processes ++ [Process.mk state.epoch stopsAfter none .waiting])[pid]? = some process →
      state.processes[pid]? = some process ∨
        pid = launched.length ∧ process = Process.mk state.epoch stopsAfter none .waiting := by
    intro pid process hprocess
    rw [← h.count]
    exact getElem?_of_concat hprocess
  constructor
  case count =>
    show (state.processes ++ [_]).length = (launched ++ [config]).length
    rw [List.length_append, List.length_append, h.count]
    rfl
  case enrolled_le =>
    rw [List.length_append]
    exact Nat.le_add_right_of_le h.enrolled_le
  case epochs =>
    intro pid process hprocess
    rcases hold pid process hprocess with hget | ⟨rfl, rfl⟩
    · exact h.epochs pid process hget
    · exact hepoch
  case ended =>
    intro pid process hprocess hreaper
    rcases hold pid process hprocess with hget | ⟨-, rfl⟩
    · exact h.ended pid process hget hreaper
    · exact absurd rfl hreaper
  case keeps =>
    intro pid process other hprocess hother
    rcases hold pid process hprocess with hget | ⟨rfl, rfl⟩
    · rw [List.getElem?_append_left (h.pid_lt hget)] at hother
      exact (keeps_congr state Iff.rfl Iff.rfl rfl _).mpr (h.keeps pid process other hget hother)
    · rw [List.getElem?_concat_length] at hother
      obtain rfl := Option.some.inj hother
      refine ⟨fun hlt => absurd h.enrolled_le (Nat.not_le_of_lt hlt), ?_⟩
      show state.fileOf state.epoch = some (.file (Text.bytes config.text))
      rw [h.spare state.epoch (Nat.le_of_eq hepoch.symm), if_pos hepoch]
      rfl
  case records => exact h.records
  case ascending => exact h.ascending
  case spare =>
    intro epoch hle
    rw [List.length_append] at hle
    have hlt : launched.length < epoch.toNat := hle
    show state.fileOf epoch = _
    rw [h.spare epoch (Nat.le_of_lt hlt), if_neg (Nat.ne_of_gt hlt)]
    split <;> rfl

/-- A process that was launched is put on record. -/
theorem enroll {config : Config} (h : state.Sound (launched ++ [config]) launched.length none)
    {epoch : Epoch} (hepoch : epoch.toNat = launched.length) :
    { state with
      records := state.records ++
        [ProcessRecord.mk epoch launched.length (configName epoch)] }.Sound
      (launched ++ [config]) (launched.length + 1) none := by
  have hlength : (launched ++ [config]).length = launched.length + 1 := List.length_append ..
  constructor
  case count => exact h.count
  case enrolled_le => exact Nat.le_of_eq hlength.symm
  case epochs => exact h.epochs
  case ended => exact h.ended
  case keeps =>
    intro pid process other hprocess hother
    have hkeeps := h.keeps pid process other hprocess hother
    by_cases hlt : pid < launched.length
    · refine (keeps_congr state (iff_of_true (Nat.lt_succ_of_lt hlt) hlt) ?_ ?_ _).mpr hkeeps
      · show ProcessRecord.mk _ _ _ ∈ state.records ++ [_] ↔ ProcessRecord.mk _ _ _ ∈ state.records
        rw [List.mem_append, List.mem_singleton]
        refine or_iff_left fun heq => ?_
        exact Nat.ne_of_lt hlt (congrArg ProcessRecord.pid heq)
      · rfl
    · -- only the reaper of a process that is not enrolled may have come no further than this
      have hle : pid < launched.length + 1 := by rw [← hlength]; exact h.pid_lt hprocess
      obtain rfl : pid = launched.length :=
        Nat.le_antisymm (Nat.le_of_lt_succ hle) (Nat.le_of_not_lt hlt)
      have hsame : epoch = process.epoch :=
        UInt32.toNat_inj.mp (hepoch.trans (h.epochs _ process hprocess).symm)
      have hrecord : ProcessRecord.mk process.epoch launched.length (configName process.epoch)
          ∈ state.records ++ [ProcessRecord.mk epoch launched.length (configName epoch)] := by
        rw [hsame]
        exact List.mem_append_right _ (List.mem_singleton_self _)
      cases hreaper : process.reaper with
      | waiting =>
          rw [hreaper] at hkeeps
          exact ⟨fun _ => hrecord, hkeeps.2⟩
      | released =>
          rw [hreaper] at hkeeps
          exact ⟨fun _ => hrecord, hkeeps.2⟩
      | removing name => rw [hreaper] at hkeeps; exact absurd hkeeps.1 hlt
      | forgetting => rw [hreaper] at hkeeps; exact absurd hkeeps.1 hlt
      | done => rw [hreaper] at hkeeps; exact absurd hkeeps.1 hlt
  case records =>
    intro record hrecord
    rcases List.mem_append.mp hrecord with hold | hnew
    · obtain ⟨hlt, hpid, hconfig⟩ := h.records record hold
      exact ⟨Nat.lt_succ_of_lt hlt, hpid, hconfig⟩
    · obtain rfl := List.mem_singleton.mp hnew
      exact ⟨Nat.lt_succ_self _, hepoch, rfl⟩
  case ascending =>
    refine List.pairwise_append.mpr ⟨h.ascending, List.pairwise_singleton .., ?_⟩
    intro a ha b hb
    obtain rfl := List.mem_singleton.mp hb
    exact (h.records a ha).1
  case spare => exact h.spare

-- ── Reapers ─────────────────────────────────────────────────────────────────

/-- Every step of a reaper leaves what the next one calls for. It looks for the record and
    forgets it only while no launched process waits to be enrolled. -/
theorem reap (h : state.Sound launched enrolled draft) {pid : ProcessId} {process : Process}
    (hprocess : state.processes[pid]? = some process) (hreaps : state.Reaps pid process after)
    (hlock : process.reaper = .released ∨ process.reaper = .forgetting →
      enrolled = launched.length)
    (hallowed : ∀ config, process.reaper = .removing config →
      state.directory.refusalOf config = none) :
    after.Sound launched enrolled draft := by
  have hown : ∀ {old : Process}, state.processes[pid]? = some old → old = process :=
    fun hget => Option.some.inj (hget.symm.trans hprocess)
  have hended : process.reaper ≠ .waiting → (state.ended? process).isSome = true :=
    h.ended pid process hprocess
  obtain ⟨config, hconfig⟩ : ∃ config, launched[pid]? = some config :=
    ⟨_, List.getElem?_eq_getElem (h.pid_lt hprocess)⟩
  have hnow := h.keeps pid process config hprocess hconfig
  cases hreaps with
  | release warnings hreaper hend =>
      refine h.modify rfl (Nat.le_refl _) (List.Sublist.refl _) (fun _ _ _ => Iff.rfl)
        (fun _ _ => rfl) (fun _ => rfl) ?_ ?_
      · intro old hget _
        rw [hown hget]
        exact hend
      · intro old content hget hkeeps
        rw [hown hget, hreaper] at hkeeps
        rw [hown hget]
        exact hkeeps
  | @find record hreaper hrecord hepoch =>
      have hpid : pid < enrolled := hlock (Or.inl hreaper) ▸ h.pid_lt hprocess
      obtain ⟨hname, hon⟩ := h.onRecord_of_mem hprocess hrecord hepoch
      refine h.modify rfl (Nat.le_refl _) (List.Sublist.refl _) (fun _ _ _ => Iff.rfl)
        (fun _ _ => rfl) (fun _ => rfl) ?_ ?_
      · intro old hget _
        rw [hown hget]
        exact hended (by rw [hreaper]; nofun)
      · intro old content hget hkeeps
        rw [hown hget, hreaper] at hkeeps
        rw [hown hget]
        exact ⟨hpid, hon, hname, hkeeps.2⟩
  | miss hreaper hrecords =>
      have hpid : pid < enrolled := hlock (Or.inl hreaper) ▸ h.pid_lt hprocess
      rw [hreaper] at hnow
      exact absurd rfl (hrecords _ (hnow.1 hpid))
  | @remove name hreaper =>
      rw [hreaper] at hnow
      obtain ⟨hpid, hon, rfl, hfile⟩ := hnow
      obtain ⟨directory, hremoved, hentries⟩ := removeConfig_eq (hallowed _ hreaper) hfile
      rw [hremoved]
      refine h.modify rfl (Nat.le_refl _) (List.Sublist.refl _) (fun _ _ _ => Iff.rfl)
        (fun epoch hother => ?_) (fun _ => rfl) ?_ ?_
      · exact (hentries epoch).trans (if_neg (hother process hprocess))
      · intro old hget _
        rw [hown hget]
        exact hended (by rw [hreaper]; nofun)
      · intro old content hget _
        rw [hown hget]
        exact ⟨hpid, hon, (hentries process.epoch).trans (if_pos rfl)⟩
  | forget hreaper =>
      rw [hreaper] at hnow
      obtain ⟨hpid, -, hfile⟩ := hnow
      refine h.modify rfl (Nat.le_refl _) List.filter_sublist ?_ (fun _ _ => rfl)
        (fun _ => rfl) ?_ ?_
      · -- a record of another process is under another epoch
        intro other epoch hne
        refine List.mem_filter.trans (and_iff_left_of_imp fun hrecord => ?_)
        refine decide_eq_true fun heq : epoch = process.epoch => hne ?_
        rw [← h.epochs pid process hprocess, ← heq]
        exact (h.records _ hrecord).2.1
      · intro old hget _
        rw [hown hget]
        exact hended (by rw [hreaper]; nofun)
      · intro old content hget _
        rw [hown hget]
        refine ⟨hpid, fun hrecord => ?_, hfile⟩
        exact of_decide_eq_true (List.mem_filter.mp hrecord).2 rfl

-- ── What there is ───────────────────────────────────────────────────────────

/-- A process that runs and is enrolled has its record and its file. -/
theorem running (h : state.Sound launched enrolled draft) {pid : ProcessId} {process : Process}
    {config : Config} (hprocess : state.processes[pid]? = some process)
    (hconfig : launched[pid]? = some config) (hruns : state.ended? process = none)
    (henrolled : pid < enrolled) :
    state.OnRecord pid process.epoch ∧
      state.fileOf process.epoch = some (.file (Text.bytes config.text)) := by
  have hkeeps := h.keeps pid process config hprocess hconfig
  have hwaiting : process.reaper = .waiting := by
    by_cases hreaper : process.reaper = .waiting
    · exact hreaper
    · have hended := h.ended pid process hprocess hreaper
      rw [hruns] at hended
      exact nomatch hended
  rw [hwaiting] at hkeeps
  exact ⟨hkeeps.1 henrolled, hkeeps.2⟩

/-- A record is that of a process that is not reaped. -/
theorem exists_process (h : state.Sound launched enrolled draft) {record : ProcessRecord}
    (hrecord : record ∈ state.records) :
    ∃ process, state.processes[record.pid]? = some process ∧ process.epoch = record.epoch ∧
      process.reaper ≠ .done := by
  obtain ⟨hlt, hpid, hconfig⟩ := h.records record hrecord
  have hlaunched : record.pid < launched.length := Nat.lt_of_lt_of_le hlt h.enrolled_le
  have hcount : record.pid < state.processes.length := h.count.symm ▸ hlaunched
  have hprocess := List.getElem?_eq_getElem hcount
  have hepoch : state.processes[record.pid].epoch = record.epoch :=
    UInt32.toNat_inj.mp ((h.epochs _ _ hprocess).trans hpid.symm)
  refine ⟨_, hprocess, hepoch, fun hdone => ?_⟩
  have hkeeps := h.keeps _ _ _ hprocess (List.getElem?_eq_getElem hlaunched)
  rw [hdone, hepoch] at hkeeps
  refine hkeeps.2.1 ?_
  show (⟨record.epoch, record.pid, configName record.epoch⟩ : ProcessRecord) ∈ state.records
  rw [← hconfig]
  exact hrecord

/-- Without a record there is no file, if all processes are enrolled and there is no draft. -/
theorem fileOf_eq_none (h : state.Sound launched launched.length none) {epoch : Epoch}
    (hrecord : ∀ pid, ¬ state.OnRecord pid epoch) : state.fileOf epoch = none := by
  by_cases hlt : epoch.toNat < launched.length
  · have hcount : epoch.toNat < state.processes.length := h.count.symm ▸ hlt
    have hprocess := List.getElem?_eq_getElem hcount
    have hkeeps := h.keeps _ _ _ hprocess (List.getElem?_eq_getElem hlt)
    have hepoch : state.processes[epoch.toNat].epoch = epoch :=
      UInt32.toNat_inj.mp (h.epochs _ _ hprocess)
    rw [hepoch] at hkeeps
    cases hreaper : state.processes[epoch.toNat].reaper with
    | waiting => rw [hreaper] at hkeeps; exact absurd (hkeeps.1 hlt) (hrecord _)
    | released => rw [hreaper] at hkeeps; exact absurd (hkeeps.1 hlt) (hrecord _)
    | removing name => rw [hreaper] at hkeeps; exact absurd hkeeps.2.1 (hrecord _)
    | forgetting => rw [hreaper] at hkeeps; exact hkeeps.2.2
    | done => rw [hreaper] at hkeeps; exact hkeeps.2.2
  · exact (h.spare epoch (Nat.le_of_not_lt hlt)).trans (ite_self none)

end Sound

end AgentState

end MeshSidecar
