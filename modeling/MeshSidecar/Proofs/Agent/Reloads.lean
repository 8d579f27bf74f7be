import MeshSidecar.Proofs.Agent.Generations
import MeshSidecar.Proxy.Generate

/-!
# Reloads and reapers in any order

Any number of callers reload the proxy. A reload holds a lock while it writes the file, launches
the process, puts it on record, advances the epoch and publishes, or gives up. The reaper of a
process needs the lock to look for the record and to forget it, but not to wait for the process
or to remove the file, so it does these while a reload is under way. Processes end at any time.

As long as no more reloads succeed than there are epochs, every reload that succeeds gets an epoch
of its own, and a process that runs has its record and its file (`Fleet.safe_of_reachable`). What
is shown of all states is what the agent looks like at each stage of the reload that holds the
lock (`Fleet.Expects`): whether there is a draft for the next epoch, and whether the process
launched last is on record yet.

The steps are those of the agent. A reload that nobody interrupts does what `AgentState.reload`
does (`Fleet.Reachable.reload`), and a reaper that nobody interrupts what `AgentState.reapSteps`
does (`Fleet.Reachable.reapSteps`).
-/

namespace MeshSidecar

/-- How far a reload has come since it took the lock. -/
inductive HoldStage where
  | entered
  | written
  /-- The process could not be launched, and the file is to be removed. -/
  | refused (error : HostError)
  | launched (pid : ProcessId)
  | recorded
  | advanced

/-- A reload that holds the lock. -/
structure Hold where
  config : Config
  /-- The epoch that it found. -/
  epoch : Epoch
  stage : HoldStage

/-- The agent, the reload that holds its lock, and the ones that are over. -/
structure Fleet where
  agent : AgentState
  hold : Option Hold
  /-- The configurations and the answers, in the order in which the lock was held. -/
  attempts : List (Config × Except ReloadError Epoch)

/-- Whether a reaper needs the lock for its next step. -/
def ReapStage.Locks (stage : ReapStage) : Prop := stage = .released ∨ stage = .forgetting

namespace Fleet

/-- The reloads that succeeded, with the epochs that they returned, in order. -/
def successesOf (attempts : List (Config × Except ReloadError Epoch)) : List (Config × Epoch) :=
  attempts.filterMap fun (config, answer) =>
    match answer with
    | .ok epoch => some (config, epoch)
    | .error _ => none

/-- The reloads that succeeded so far. -/
def successes (s : Fleet) : List (Config × Epoch) := successesOf s.attempts

/-- One thing that may happen. -/
inductive Step : Fleet → Fleet → Prop where
  /-- A caller takes the lock. -/
  | enter (s : Fleet) (config : Config) (hfree : s.hold = none) :
      Step s { s with hold := some ⟨config, s.agent.epoch, .entered⟩ }
  | write (s : Fleet) {config : Config} {epoch : Epoch} {agent : AgentState}
      (hhold : s.hold = some ⟨config, epoch, .entered⟩)
      (hwrite : s.agent.writeConfig config = (agent, none)) :
      Step s { s with agent := agent, hold := some ⟨config, epoch, .written⟩ }
  /-- The file cannot be written. Nothing is left behind. -/
  | writeFails (s : Fleet) {config : Config} {epoch : Epoch} {agent : AgentState}
      {error : HostError} (hhold : s.hold = some ⟨config, epoch, .entered⟩)
      (hwrite : s.agent.writeConfig config = (agent, some error))
      (hclean : agent.fileOf epoch = none) :
      Step s
        { agent := agent
          hold := none
          attempts := s.attempts ++
            [(config, .error (.writeConfig (agent.options.configPath epoch) error))] }
  | launch (s : Fleet) {config : Config} {epoch : Epoch} {agent : AgentState} {pid : ProcessId}
      (hhold : s.hold = some ⟨config, epoch, .written⟩)
      (hspawn : s.agent.spawn = (agent, .ok pid)) :
      Step s { s with agent := agent, hold := some ⟨config, epoch, .launched pid⟩ }
  | launchFails (s : Fleet) {config : Config} {epoch : Epoch} {agent : AgentState}
      {error : HostError} (hhold : s.hold = some ⟨config, epoch, .written⟩)
      (hspawn : s.agent.spawn = (agent, .error error)) :
      Step s { s with agent := agent, hold := some ⟨config, epoch, .refused error⟩ }
  /-- The file of a process that could not be launched is removed. -/
  | withdraw (s : Fleet) {config : Config} {epoch : Epoch} {error : HostError}
      (hhold : s.hold = some ⟨config, epoch, .refused error⟩)
      (hallowed : s.agent.directory.refusalOf (configName epoch) = none) :
      Step s
        { agent := s.agent.removeConfig (configName epoch)
          hold := none
          attempts := s.attempts ++ [(config, .error (.spawn s.agent.options.binary error))] }
  | record (s : Fleet) {config : Config} {epoch : Epoch} {pid : ProcessId}
      (hhold : s.hold = some ⟨config, epoch, .launched pid⟩) :
      Step s
        { s with
          agent := { s.agent with
            records := s.agent.records ++ [⟨epoch, pid, configName epoch⟩] }
          hold := some ⟨config, epoch, .recorded⟩ }
  | advance (s : Fleet) {config : Config} {epoch : Epoch}
      (hhold : s.hold = some ⟨config, epoch, .recorded⟩) :
      Step s
        { s with
          agent := { s.agent with epoch := s.agent.epoch + 1 }
          hold := some ⟨config, epoch, .advanced⟩ }
  /-- The live epochs are published, and the lock is given back. -/
  | publish (s : Fleet) {config : Config} {epoch : Epoch}
      (hhold : s.hold = some ⟨config, epoch, .advanced⟩) :
      Step s
        { agent := s.agent.publish
          hold := none
          attempts := s.attempts ++ [(config, .ok epoch)] }
  /-- A process ends. -/
  | finish (s : Fleet) (pid : ProcessId) (status : ExitStatus) :
      Step s { s with agent := s.agent.finish pid status }
  /-- A signal is sent, after which a process may end later. -/
  | signal (s : Fleet) (pid : ProcessId) (signal : Signal) :
      Step s { s with agent := s.agent.signal pid signal }
  /-- A reaper makes its next step. A file that it removes is not refused. -/
  | reap (s : Fleet) {pid : ProcessId} {process : Process} {agent : AgentState}
      (hprocess : s.agent.processes[pid]? = some process)
      (hlock : process.reaper.Locks → s.hold = none)
      (hallowed : ∀ config, process.reaper = .removing config →
        s.agent.directory.refusalOf config = none)
      (hreap : s.agent.reapStep pid = some agent) :
      Step s { s with agent := agent }
  /-- Time passes, and the binary and the directory change, but for the configuration files. -/
  | pass (s : Fleet) (now : Nat) (program : Program) (directory : Directory)
      (hnow : s.agent.now ≤ now)
      (hfiles : ∀ epoch,
        directory.entries.get? (configName epoch) = s.agent.fileOf epoch) :
      Step s
        { s with
          agent := { s.agent with now := now, program := program, directory := directory } }

/-- The states that are reached from an agent that launched nothing, with no configuration file
    in its directory. -/
inductive Reachable : Fleet → Prop where
  | start (options : ProxyOptions) (program : Program) (directory : Directory) (now : Nat)
      (hfiles : ∀ epoch, directory.entries.get? (configName epoch) = none) :
      Reachable
        { agent := { options, program, directory, now }
          hold := none
          attempts := [] }
  | step {s t : Fleet} (h : Reachable s) (hstep : Step s t) : Reachable t

-- ── Invariant ───────────────────────────────────────────────────────────────

/-- An agent on which all processes that were launched are enrolled and published. -/
structure Settled (agent : AgentState) (configs : List Config) (draft : Option Config) : Prop where
  counter : agent.epoch.toNat = configs.length
  live : agent.live = agent.records.map (·.epoch)
  sound : agent.Sound configs configs.length draft

/-- What the agent looks like at each stage of the reload that holds the lock, after the reloads
    with some configurations succeeded. -/
def Expects (agent : AgentState) (configs : List Config) : Option Hold → Prop
  | none => Settled agent configs none
  | some ⟨_, epoch, .entered⟩ => agent.epoch = epoch ∧ Settled agent configs none
  | some ⟨config, epoch, .written⟩ | some ⟨config, epoch, .refused _⟩ =>
      agent.epoch = epoch ∧ Settled agent configs (some config)
  | some ⟨config, epoch, .launched pid⟩ =>
      agent.epoch = epoch ∧ epoch.toNat = configs.length ∧ pid = configs.length ∧
        agent.Sound (configs ++ [config]) configs.length none
  | some ⟨config, epoch, .recorded⟩ =>
      agent.epoch = epoch ∧ epoch.toNat = configs.length ∧
        agent.Sound (configs ++ [config]) (configs.length + 1) none
  | some ⟨config, epoch, .advanced⟩ =>
      agent.epoch = epoch + 1 ∧ epoch.toNat = configs.length ∧
        agent.Sound (configs ++ [config]) (configs.length + 1) none

/-- What holds at all times. -/
structure Invariant (s : Fleet) : Prop where
  returned : ∀ (k : Nat) (config : Config) (epoch : Epoch),
    (successesOf s.attempts)[k]? = some (config, epoch) → epoch.toNat = k
  expects : Expects s.agent ((successesOf s.attempts).map (·.1)) s.hold

/-- What is done to the agent without the lock keeps what the lock's holder expects. -/
theorem Expects.move {agent after : AgentState} {configs : List Config} {hold : Option Hold}
    (h : Expects agent configs hold) (hepoch : after.epoch = agent.epoch)
    (hlive : agent.live = agent.records.map (·.epoch) → after.live = after.records.map (·.epoch))
    (hsound : ∀ launched enrolled draft, (hold = none → enrolled = launched.length) →
      agent.Sound launched enrolled draft → after.Sound launched enrolled draft) :
    Expects after configs hold := by
  have hsettled : ∀ draft, Settled agent configs draft → Settled after configs draft :=
    fun draft hagent => ⟨by rw [hepoch, hagent.counter], hlive hagent.live,
      hsound _ _ _ (fun _ => rfl) hagent.sound⟩
  match hold with
  | none => exact hsettled _ h
  | some ⟨config, epoch, stage⟩ =>
      cases stage with
      | entered => exact ⟨hepoch.trans h.1, hsettled _ h.2⟩
      | written => exact ⟨hepoch.trans h.1, hsettled _ h.2⟩
      | refused error => exact ⟨hepoch.trans h.1, hsettled _ h.2⟩
      | launched pid =>
          obtain ⟨hsame, hcount, hpid, hagent⟩ := h
          exact ⟨hepoch.trans hsame, hcount, hpid, hsound _ _ _ nofun hagent⟩
      | recorded =>
          obtain ⟨hsame, hcount, hagent⟩ := h
          exact ⟨hepoch.trans hsame, hcount, hsound _ _ _ nofun hagent⟩
      | advanced =>
          obtain ⟨hsame, hcount, hagent⟩ := h
          exact ⟨hepoch.trans hsame, hcount, hsound _ _ _ nofun hagent⟩

-- ── Steps ───────────────────────────────────────────────────────────────────

variable {s t : Fleet}

/-- A reload that succeeded comes after the others. -/
theorem successesOf_append_ok (attempts : List (Config × Except ReloadError Epoch))
    (config : Config) (epoch : Epoch) :
    successesOf (attempts ++ [(config, .ok epoch)]) = successesOf attempts ++ [(config, epoch)] :=
  List.filterMap_append ..

/-- A reload that failed is not among those that succeeded. -/
theorem successesOf_append_error (attempts : List (Config × Except ReloadError Epoch))
    (config : Config) (error : ReloadError) :
    successesOf (attempts ++ [(config, .error error)]) = successesOf attempts :=
  (List.filterMap_append ..).trans (List.append_nil _)

/-- The reloads that succeeded are never fewer afterwards. -/
theorem Step.length_le (h : Step s t) : s.successes.length ≤ t.successes.length := by
  have happend : ∀ more, s.successes.length ≤ (successesOf (s.attempts ++ more)).length := by
    intro more
    rw [successesOf, List.filterMap_append, List.length_append]
    exact Nat.le_add_right _ _
  cases h <;> first
    | exact Nat.le_refl _
    | exact happend _

/-- A file that is written is the draft of the next epoch. -/
theorem Settled.write {agent after : AgentState} {configs : List Config} {draft : Option Config}
    {config : Config} (h : Settled agent configs draft)
    (hwrite : agent.writeConfig config = (after, none)) :
    after.epoch = agent.epoch ∧ Settled after configs (some config) := by
  have hsound := h.sound.write h.counter hwrite
  obtain ⟨directory, rfl, -⟩ := AgentState.writeConfig_eq hwrite
  exact ⟨rfl, h.counter, h.live, hsound⟩

/-- A file that cannot be written leaves no draft. -/
theorem Settled.writeFails {agent after : AgentState} {configs : List Config}
    {draft : Option Config} {config : Config} {error : Option HostError}
    (h : Settled agent configs draft) (hwrite : agent.writeConfig config = (after, error))
    (hclean : after.fileOf agent.epoch = none) : Settled after configs none := by
  have hsound := h.sound.writeFails h.counter hwrite hclean
  obtain ⟨directory, rfl, -⟩ := AgentState.writeConfig_eq hwrite
  exact ⟨h.counter, h.live, hsound⟩

/-- A draft that is removed is gone. -/
theorem Settled.withdraw {agent : AgentState} {configs : List Config} {config : Config}
    (h : Settled agent configs (some config))
    (hallowed : agent.directory.refusalOf (configName agent.epoch) = none) :
    Settled (agent.removeConfig (configName agent.epoch)) configs none := by
  obtain ⟨hepoch, hrecords, hlive, -⟩ := agent.removeConfig_frame (configName agent.epoch)
  refine ⟨by rw [hepoch, h.counter], by rw [hlive, hrecords, h.live], ?_⟩
  exact h.sound.withdraw h.counter hallowed

/-- The reload that is published is the next one that succeeded. -/
theorem settled_publish {agent : AgentState} {configs : List Config} {config : Config}
    {epoch : Epoch} (hepoch : agent.epoch = epoch + 1) (hcount : epoch.toNat = configs.length)
    (hfew : configs.length + 1 < UInt32.size)
    (h : agent.Sound (configs ++ [config]) (configs.length + 1) none) :
    Settled agent.publish (configs ++ [config]) none := by
  have hlength : (configs ++ [config]).length = configs.length + 1 := List.length_append ..
  refine ⟨?_, rfl, ?_⟩
  · show agent.epoch.toNat = _
    rw [hepoch, hlength, UInt32.toNat_add, hcount]
    exact Nat.mod_eq_of_lt hfew
  · rw [hlength]
    exact h.congr rfl rfl (Nat.le_refl _) fun _ => rfl

/-- A reload that gives up leaves the others as they are. -/
theorem Invariant.giveUp (h : Invariant s) {agent : AgentState} {config : Config}
    {error : ReloadError} (hsettled : Settled agent ((successesOf s.attempts).map (·.1)) none) :
    Invariant ⟨agent, none, s.attempts ++ [(config, .error error)]⟩ where
  returned := by
    rw [successesOf_append_error]
    exact h.returned
  expects := by
    rw [successesOf_append_error]
    exact hsettled

/-- A reload that succeeds returns the next epoch. -/
theorem Invariant.succeed (h : Invariant s) {agent : AgentState} {config : Config} {epoch : Epoch}
    (hcount : epoch.toNat = (successesOf s.attempts).length)
    (hsettled : Settled agent ((successesOf s.attempts).map (·.1) ++ [config]) none) :
    Invariant ⟨agent, none, s.attempts ++ [(config, .ok epoch)]⟩ where
  returned := by
    intro k other found hget
    rw [successesOf_append_ok] at hget
    rcases getElem?_of_concat hget with hold | ⟨rfl, hnew⟩
    · exact h.returned k other found hold
    · rw [(Prod.mk.inj hnew).2]
      exact hcount
  expects := by
    rw [successesOf_append_ok, List.map_append]
    exact hsettled

/-- What is done without the lock preserves the invariant. -/
theorem Invariant.outside (h : Invariant s) {agent : AgentState}
    (hepoch : agent.epoch = s.agent.epoch)
    (hlive : s.agent.live = s.agent.records.map (·.epoch) →
      agent.live = agent.records.map (·.epoch))
    (hsound : ∀ launched enrolled draft, (s.hold = none → enrolled = launched.length) →
      s.agent.Sound launched enrolled draft → agent.Sound launched enrolled draft) :
    Invariant { s with agent := agent } :=
  ⟨h.returned, h.expects.move hepoch hlive hsound⟩

/-- Every step preserves the invariant as long as there are epochs left. -/
theorem Invariant.step (h : Invariant s) (hstep : Step s t)
    (hfew : t.successes.length < UInt32.size) : Invariant t := by
  have hexpects := h.expects
  cases hstep with
  | enter config hfree =>
      rw [hfree] at hexpects
      exact ⟨h.returned, rfl, hexpects⟩
  | @write config epoch agent hhold hwrite =>
      rw [hhold] at hexpects
      obtain ⟨rfl, hsettled⟩ := hexpects
      exact ⟨h.returned, hsettled.write hwrite⟩
  | @writeFails config epoch agent error hhold hwrite hclean =>
      rw [hhold] at hexpects
      obtain ⟨rfl, hsettled⟩ := hexpects
      exact h.giveUp (hsettled.writeFails hwrite hclean)
  | @launch config epoch agent pid hhold hspawn =>
      rw [hhold] at hexpects
      obtain ⟨hepoch, hsettled⟩ := hexpects
      obtain ⟨hpid, stopsAfter, rfl⟩ := AgentState.spawn_eq_ok hspawn
      exact ⟨h.returned, hepoch, hepoch ▸ hsettled.counter, hpid.trans hsettled.sound.count,
        hsettled.sound.launch hsettled.counter stopsAfter⟩
  | @launchFails config epoch agent error hhold hspawn =>
      rw [hhold] at hexpects
      rw [AgentState.spawn_eq_error hspawn]
      exact ⟨h.returned, hexpects⟩
  | @withdraw config epoch error hhold hallowed =>
      rw [hhold] at hexpects
      obtain ⟨rfl, hsettled⟩ := hexpects
      exact h.giveUp (hsettled.withdraw hallowed)
  | @record config epoch pid hhold =>
      rw [hhold] at hexpects
      obtain ⟨hepoch, hcount, rfl, hsound⟩ := hexpects
      exact ⟨h.returned, hepoch, hcount, hsound.enroll hcount⟩
  | @advance config epoch hhold =>
      rw [hhold] at hexpects
      obtain ⟨hepoch, hcount, hsound⟩ := hexpects
      refine ⟨h.returned, congrArg (· + 1) hepoch, hcount, ?_⟩
      exact hsound.congr rfl rfl (Nat.le_refl _) fun _ => rfl
  | @publish config epoch hhold =>
      rw [hhold] at hexpects
      obtain ⟨hepoch, hcount, hsound⟩ := hexpects
      have hless : ((successesOf s.attempts).map (·.1)).length + 1 < UInt32.size := by
        rw [List.length_map]
        rw [successes, successesOf_append_ok, List.length_append] at hfew
        exact hfew
      have hsettled := settled_publish hepoch hcount hless hsound
      exact h.succeed (hcount.trans (List.length_map _)) hsettled
  | finish pid status =>
      exact h.outside rfl id fun _ _ _ _ hsound => hsound.onlyEnds pid (s.agent.onlyEnds_endAt _ _)
  | signal pid signal =>
      obtain ⟨f, signals, hf, heq⟩ := s.agent.signal_eq pid signal
      rw [heq]
      exact h.outside rfl id fun _ _ _ _ hsound =>
        (hsound.onlyEnds pid hf).congr rfl rfl (Nat.le_refl _) fun _ => rfl
  | @reap pid process agent hprocess hlock hallowed hreap =>
      have hreaps := AgentState.reaps_of_reapStep hprocess hreap
      exact h.outside hreaps.epoch_eq hreaps.live_eq fun _ _ _ hfree hsound =>
        hsound.reap hprocess hreaps (fun hlocks => hfree (hlock hlocks)) hallowed
  | pass now program directory hnow hfiles =>
      exact h.outside rfl id fun _ _ _ _ hsound => hsound.congr rfl rfl hnow hfiles

/-- An agent that launched nothing has nothing. -/
theorem settled_start {options : ProxyOptions} {program : Program} {directory : Directory}
    {now : Nat} (hfiles : ∀ epoch, directory.entries.get? (configName epoch) = none) :
    Settled { options, program, directory, now } [] none where
  counter := rfl
  live := rfl
  sound :=
    { count := rfl
      enrolled_le := Nat.le_refl 0
      epochs := fun _ _ hprocess => nomatch hprocess
      ended := fun _ _ hprocess => nomatch hprocess
      keeps := fun _ _ _ hprocess => nomatch hprocess
      records := nofun
      ascending := List.Pairwise.nil
      spare := fun epoch _ => (hfiles epoch).trans (ite_self none).symm }

/-- The invariant holds whatever happens, as long as there are epochs left. -/
theorem Reachable.invariant (h : Reachable s) (hfew : s.successes.length < UInt32.size) :
    Invariant s := by
  induction h with
  | start options program directory now hfiles =>
      exact ⟨fun _ _ _ hget => (nomatch hget), settled_start hfiles⟩
  | step h hstep ih => exact (ih (Nat.lt_of_le_of_lt hstep.length_le hfew)).step hstep hfew

-- ── Safety ──────────────────────────────────────────────────────────────────

/-- Every reload that succeeded has an epoch and a process of its own, and every process that
    runs has its record and its file. -/
structure Safe (s : Fleet) : Prop where
  /-- The reloads that succeeded returned the epochs in order, beginning with 0. -/
  returned : ∀ (k : Nat) (config : Config) (epoch : Epoch),
    s.successes[k]? = some (config, epoch) → epoch.toNat = k
  counter : s.agent.epoch.toNat = s.successes.length
  below : ∀ record ∈ s.agent.records, record.epoch < s.agent.epoch
  /-- What is published are the epochs on record, each once. -/
  live : s.agent.live = s.agent.records.map (·.epoch) ∧ s.agent.live.Pairwise (· < ·)
  processes : s.agent.processes.length = s.successes.length
  /-- A process that has not ended is on record under the epoch that its reload returned, and its
      file holds the configuration of that reload. -/
  running : ∀ (pid : ProcessId) (process : Process), s.agent.processes[pid]? = some process →
    s.agent.ended? process = none →
    ∃ config, s.successes[pid]? = some (config, process.epoch) ∧
      ⟨process.epoch, pid, configName process.epoch⟩ ∈ s.agent.records ∧
      s.agent.directory.entries.get? (configName process.epoch) =
        some (.file (Text.bytes config.text))
  /-- A record is that of a process whose reaper is not done. -/
  recorded : ∀ record ∈ s.agent.records, ∃ process,
    s.agent.processes[record.pid]? = some process ∧ process.epoch = record.epoch ∧
      process.reaper ≠ .done
  /-- There is a file only for an epoch on record. -/
  files : ∀ (epoch : Epoch), epoch ∉ s.agent.live →
    s.agent.directory.entries.get? (configName epoch) = none
  /-- No two epochs share a file. -/
  paths : ∀ a b, s.agent.options.configPath a = s.agent.options.configPath b → a = b

/-- Whatever happens, and in whatever order, the agent is safe whenever its lock is free, as long
    as fewer reloads succeeded than there are epochs. -/
theorem safe_of_reachable (h : Reachable s) (hfree : s.hold = none)
    (hfew : s.successes.length < UInt32.size) : s.Safe := by
  have hinv := h.invariant hfew
  have hsettled : Settled s.agent (s.successes.map (·.1)) none := by
    have hexpects := hinv.expects
    rw [hfree] at hexpects
    exact hexpects
  have hsound := hsettled.sound
  have hcounter : s.agent.epoch.toNat = s.successes.length :=
    hsettled.counter.trans (List.length_map _)
  constructor
  case returned => exact hinv.returned
  case counter => exact hcounter
  case below =>
    intro record hrecord
    obtain ⟨hlt, hpid, -⟩ := hsound.records record hrecord
    show record.epoch.toNat < s.agent.epoch.toNat
    rw [hpid, hsettled.counter]
    exact hlt
  case live =>
    refine ⟨hsettled.live, ?_⟩
    rw [hsettled.live, List.pairwise_map]
    refine hsound.ascending.imp_of_mem fun {a b} ha hb hlt => ?_
    show a.epoch.toNat < b.epoch.toNat
    rw [(hsound.records a ha).2.1, (hsound.records b hb).2.1]
    exact hlt
  case processes => exact hsound.count.trans (List.length_map _)
  case running =>
    intro pid process hprocess hruns
    have hlt : pid < (s.successes.map (·.1)).length := hsound.pid_lt hprocess
    obtain ⟨⟨config, epoch⟩, hget⟩ : ∃ success, s.successes[pid]? = some success :=
      ⟨_, List.getElem?_eq_getElem (by rwa [List.length_map] at hlt)⟩
    have hepoch : epoch = process.epoch := UInt32.toNat_inj.mp
      ((hinv.returned pid config epoch hget).trans (hsound.epochs pid process hprocess).symm)
    have hconfig : (s.successes.map (·.1))[pid]? = some config := by
      rw [List.getElem?_map, hget]
      rfl
    exact ⟨config, hepoch ▸ hget, hsound.running hprocess hconfig hruns hlt⟩
  case recorded => exact fun record hrecord => hsound.exists_process hrecord
  case files =>
    intro epoch hlive
    refine hsound.fileOf_eq_none fun pid hrecord => hlive ?_
    rw [hsettled.live]
    exact List.mem_map.mpr ⟨_, hrecord, rfl⟩
  case paths => exact fun a b => ProxyOptions.configPath_inj

-- ── Without interruption ────────────────────────────────────────────────────

/-- A reload that nobody interrupts does what `AgentState.reload` does. -/
theorem Reachable.reload (h : Reachable s) (hfree : s.hold = none) (config : Config)
    (hclean : (s.agent.writeConfig config).2 = none ∨
      (s.agent.writeConfig config).1.fileOf s.agent.epoch = none)
    (hallowed : s.agent.directory.refusalOf (configName s.agent.epoch) = none) :
    Reachable
      { agent := (AgentState.reload config s.agent).2
        hold := none
        attempts := s.attempts ++ [(config, (AgentState.reload config s.agent).1)] } := by
  have hentered := h.step (.enter s config hfree)
  cases hwrite : s.agent.writeConfig config with
  | mk agent result =>
      rw [hwrite] at hclean
      have hwritable : agent.directory.refusalOf (configName s.agent.epoch) = none := by
        have hsame : agent.directory = (s.agent.directory.write (configName s.agent.epoch)
            (Text.bytes config.text)).1 := by
          rw [← (Prod.mk.inj hwrite).1]
          rfl
        rw [hsame, Directory.refusalOf_write, hallowed]
      obtain ⟨directory, rfl, -⟩ := AgentState.writeConfig_eq hwrite
      cases result with
      | some error =>
          have hfailed := hentered.step (.writeFails _ rfl hwrite (hclean.resolve_left nofun))
          simp only [AgentState.reload, hwrite]
          exact hfailed
      | none =>
          have hwritten := hentered.step (.write _ rfl hwrite)
          cases hspawn : AgentState.spawn { s.agent with directory := directory } with
          | mk agent result =>
              cases result with
              | error error =>
                  have hrefused := hwritten.step (.launchFails _ rfl hspawn)
                  obtain rfl := AgentState.spawn_eq_error hspawn
                  have hwithdrawn := hrefused.step (.withdraw _ rfl hwritable)
                  simp only [AgentState.reload, hwrite, hspawn]
                  exact hwithdrawn
              | ok pid =>
                  have hlaunched := hwritten.step (.launch _ rfl hspawn)
                  have hpublished :=
                    ((hlaunched.step (.record _ rfl)).step (.advance _ rfl)).step (.publish _ rfl)
                  obtain ⟨-, stopsAfter, rfl⟩ := AgentState.spawn_eq_ok hspawn
                  simp only [AgentState.reload, hwrite, hspawn]
                  exact hpublished

/-- A reaper that nobody interrupts does what `AgentState.reapSteps` does. -/
theorem Reachable.reapSteps (h : Reachable s) (hfree : s.hold = none) (pid : ProcessId)
    (hallowed : ∀ name, s.agent.directory.refusalOf name = none) (n : Nat) :
    Reachable { s with agent := AgentState.reapSteps pid n s.agent } := by
  induction n generalizing s with
  | zero => exact h
  | succ n ih =>
      rw [AgentState.reapSteps]
      cases hreap : s.agent.reapStep pid with
      | none => exact h
      | some agent =>
          obtain ⟨process, hprocess⟩ := AgentState.exists_process_of_reapStep hreap
          have hreaps := AgentState.reaps_of_reapStep hprocess hreap
          have hnext := h.step
            (.reap s hprocess (fun _ => hfree) (fun config _ => hallowed config) hreap)
          exact ih hnext hfree fun name => (hreaps.refusalOf_eq name).trans (hallowed name)

-- ── Two generations ─────────────────────────────────────────────────────────

/-- A configuration without listeners. -/
def bareConfig : Config where
  listeners := []
  admin := ⟨"/dev/stdout", "tcp://127.0.0.1:15000"⟩
  clusterManager := ⟨[], discoveryOf {}⟩

/-- The first of two generations has ended, and its reaper has removed its file, but not yet
    its record. The second one runs. -/
theorem first_ended :
    ∃ s : Fleet, Reachable s ∧ s.hold = none ∧
      s.successes = [(bareConfig, 0), (bareConfig, 1)] ∧
      (s.agent.processes[0]?).map Process.reaper = some .forgetting ∧
      (s.agent.processes[1]?).map s.agent.ended? = some none := by
  have hstart := Reachable.start (.ofMesh "envoy" "/etc/envoy" {}) (.runs none) {} 0 fun _ => rfl
  have hfirst := hstart.reload rfl bareConfig (by decide +kernel) rfl
  have hended := hfirst.step (.finish _ 0 (.code 0))
  have hremoving := hended.reapSteps rfl 0
    (Directory.refusalOf_eq_none (by decide +kernel) (by decide +kernel)) 2
  have hsecond := hremoving.reload rfl bareConfig (by decide +kernel) (by decide +kernel)
  have hremoved := hsecond.reapSteps rfl 0
    (Directory.refusalOf_eq_none (by decide +kernel) (by decide +kernel)) 1
  exact ⟨_, hremoved, rfl, by decide +kernel, by decide +kernel, by decide +kernel⟩

/-- Both are accounted for. -/
theorem first_ended_safe :
    ∃ s : Fleet, Reachable s ∧ s.hold = none ∧
      s.successes = [(bareConfig, 0), (bareConfig, 1)] ∧
      s.successes.length < UInt32.size ∧ s.Safe := by
  obtain ⟨s, hreachable, hfree, hsuccesses, -, -⟩ := first_ended
  have hfew : s.successes.length < UInt32.size := by
    rw [hsuccesses]
    decide
  exact ⟨s, hreachable, hfree, hsuccesses, hfew, safe_of_reachable hreachable hfree hfew⟩

end Fleet

end MeshSidecar
