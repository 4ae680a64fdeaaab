import JobDispatch.Proofs.Config.Setting

/-!
# Which documents make a configuration

A document makes a configuration exactly when every node that names a setting has a first argument
of the right kind and the described configuration is valid, both without the environment and with
it. It is then the configuration that the document and the environment describe.

So whatever names no setting is without effect, and neither is the order of nodes with different
names of an accepted document.

All this holds whatever texts are documents, and whatever is said to be wrong with a URL.
-/

namespace JobDispatch

/-- The orchestrator can work with its configuration. -/
structure OrchestratorConfig.Valid (urlFlaw? : String → Option String)
    (config : OrchestratorConfig) : Prop where
  /-- The database has a URL. -/
  databaseUrl : urlFlaw? config.databaseUrl = none
  /-- The server of the wake queue has a URL. -/
  redisUrl : urlFlaw? config.redisUrl = none
  /-- Store calls have some time. -/
  storeTimeout : 0 < config.storeTimeout.nanos
  /-- There is time between two sweeps. -/
  monitorInterval : 0 < config.monitorInterval.nanos
  /-- Heartbeats have some time. -/
  livenessThreshold : 0 < config.livenessThreshold.nanos
  /-- The list of wake tokens has a name. -/
  queueKey : config.queueKey ≠ ""
  /-- There is a connection, and their number has thirty-two bits. -/
  maxConnections : 1 ≤ config.maxConnections.toNat ∧ config.maxConnections.toNat < 0x100000000

/-- A worker can work with its configuration. -/
structure WorkerConfig.Valid (urlFlaw? : String → Option String) (config : WorkerConfig) :
    Prop where
  /-- The orchestrator has a URL. -/
  apiUrl : urlFlaw? config.apiUrl = none
  /-- The server of the wake queue has a URL. -/
  redisUrl : urlFlaw? config.redisUrl = none
  /-- There is time between two heartbeats. -/
  heartbeatInterval : 0 < config.heartbeatInterval.nanos
  /-- Waits for a token have some time. -/
  pollInterval : 0 < config.pollInterval.nanos
  /-- Requests have some time. -/
  requestTimeout : 0 < config.requestTimeout.nanos
  /-- The first pause takes some time. -/
  backoffBase : 0 < config.backoffBase.nanos
  /-- The longest pause is no shorter than the first. -/
  backoffMax : config.backoffBase.nanos ≤ config.backoffMax.nanos
  /-- The list of wake tokens has a name. -/
  queueKey : config.queueKey ≠ ""

/-- Orchestrator and workers can work with a configuration. -/
structure SystemConfig.Valid (urlFlaw? : String → Option String) (config : SystemConfig) :
    Prop where
  /-- The orchestrator can. -/
  orchestrator : config.orchestrator.Valid urlFlaw?
  /-- A worker can. -/
  worker : config.worker.Valid urlFlaw?

namespace SystemConfig

open Kdl (Node Value Entry)

variable {urlFlaw? : String → Option String}

/-- Two checks one after the other succeed when both do. -/
theorem check_then_iff {first second : Except ConfigError Unit} :
    (first >>= fun _ => second) = .ok () ↔ first = .ok () ∧ second = .ok () := by
  rw [bind_eq_ok_iff]
  constructor
  · rintro ⟨_, one, other⟩
    exact ⟨one, other⟩
  · rintro ⟨one, other⟩
    exact ⟨(), one, other⟩

/-- A condition is required. -/
theorem require_ok_iff {condition : Bool} {field problem : String} :
    require condition field problem = .ok () ↔ condition = true := by
  unfold require
  split <;> simp_all

/-- A URL is required. -/
theorem requireUrl_ok_iff {field text : String} :
    requireUrl urlFlaw? field text = .ok () ↔ urlFlaw? text = none := by
  unfold requireUrl
  split <;> simp_all

/-- Some time is required. -/
theorem requirePositive_ok_iff {field : String} {duration : Duration} :
    requirePositive field duration = .ok () ↔ 0 < duration.nanos := by
  unfold requirePositive
  rw [require_ok_iff, decide_eq_true_iff, Nat.pos_iff_ne_zero]

/-- The check of the orchestrator's part accepts exactly the valid ones. -/
theorem checkOrchestrator_ok_iff {config : OrchestratorConfig} :
    checkOrchestrator urlFlaw? config = .ok () ↔ config.Valid urlFlaw? := by
  have connections : config.maxConnections ≠ 0 ↔
      1 ≤ config.maxConnections.toNat ∧ config.maxConnections.toNat < 0x100000000 := by
    have below : config.maxConnections.toNat < 0x100000000 := config.maxConnections.toNat_lt
    rw [Ne, ← UInt32.toNat_inj, UInt32.toNat_zero]
    omega
  have named : (!config.queueKey.isEmpty) = true ↔ config.queueKey ≠ "" := by simp
  unfold checkOrchestrator
  simp only [check_then_iff, requireUrl_ok_iff, requirePositive_ok_iff, require_ok_iff, named,
    decide_eq_true_iff, connections]
  constructor
  · rintro ⟨databaseUrl, redisUrl, storeTimeout, monitorInterval, threshold, queueKey, connections⟩
    exact ⟨databaseUrl, redisUrl, storeTimeout, monitorInterval, threshold, queueKey, connections⟩
  · intro valid
    exact ⟨valid.databaseUrl, valid.redisUrl, valid.storeTimeout, valid.monitorInterval,
      valid.livenessThreshold, valid.queueKey, valid.maxConnections⟩

/-- The check of the workers' part accepts exactly the valid ones. -/
theorem checkWorker_ok_iff {config : WorkerConfig} :
    checkWorker urlFlaw? config = .ok () ↔ config.Valid urlFlaw? := by
  have named : (!config.queueKey.isEmpty) = true ↔ config.queueKey ≠ "" := by simp
  have ordered : config.backoffBase ≤ config.backoffMax ↔
      config.backoffBase.nanos ≤ config.backoffMax.nanos := Iff.rfl
  unfold checkWorker
  simp only [check_then_iff, requireUrl_ok_iff, requirePositive_ok_iff, require_ok_iff, named,
    decide_eq_true_iff, ordered]
  constructor
  · rintro ⟨apiUrl, redisUrl, heartbeat, poll, request, base, longest, queueKey⟩
    exact ⟨apiUrl, redisUrl, heartbeat, poll, request, base, longest, queueKey⟩
  · intro valid
    exact ⟨valid.apiUrl, valid.redisUrl, valid.heartbeatInterval, valid.pollInterval,
      valid.requestTimeout, valid.backoffBase, valid.backoffMax, valid.queueKey⟩

/-- The check of a configuration accepts exactly the valid ones. -/
theorem check_ok_iff {config : SystemConfig} :
    config.check urlFlaw? = .ok () ↔ config.Valid urlFlaw? := by
  unfold check
  rw [check_then_iff, checkOrchestrator_ok_iff, checkWorker_ok_iff]
  constructor
  · rintro ⟨orchestrator, worker⟩
    exact ⟨orchestrator, worker⟩
  · intro valid
    exact ⟨valid.orchestrator, valid.worker⟩

/-- The settings of an environment go before those of a document. -/
theorem override_described (lookup : String → Option String) (nodes : List Node) :
    (described unset nodes).override lookup = described lookup nodes := rfl

/-- The configuration of a document without an environment. -/
theorem ofNodes_ok_iff {nodes : List Node} {config : SystemConfig} :
    ofNodes urlFlaw? nodes = .ok config ↔
      WellFormed nodes ∧ (described unset nodes).Valid urlFlaw? ∧
        config = described unset nodes := by
  unfold ofNodes
  rw [bind_eq_ok_iff]
  constructor
  · rintro ⟨read, folded, checked⟩
    obtain ⟨wellFormed, rfl⟩ := (foldlM_applyNode_iff nodes read).mp folded
    obtain ⟨_, valid, same⟩ := bind_eq_ok_iff.mp checked
    exact ⟨wellFormed, check_ok_iff.mp valid, (Except.ok.inj same).symm⟩
  · rintro ⟨wellFormed, valid, rfl⟩
    refine ⟨_, (foldlM_applyNode_iff nodes _).mpr ⟨wellFormed, rfl⟩, ?_⟩
    exact bind_eq_ok_iff.mpr ⟨(), check_ok_iff.mpr valid, rfl⟩

/-- What comes of a document in an environment. -/
def configure (urlFlaw? : String → Option String) (lookup : String → Option String)
    (nodes : List Node) : Except ConfigError SystemConfig :=
  ofNodes urlFlaw? nodes >>= settle urlFlaw? lookup

/-- A text has to be a document, and then its nodes count. -/
theorem load_some (document? : String → Option (List Node)) (text : String)
    (lookup : String → Option String) :
    Foundation.load ⟨document?, urlFlaw?⟩ (some text) lookup =
      (document? text).elim (.error .parse) (configure urlFlaw? lookup) := by
  simp only [Foundation.load, Foundation.read]
  cases document? text <;> rfl

/-- A configuration is settled when it is valid with the settings of the environment. -/
theorem settle_ok_iff {lookup : String → Option String} {config result : SystemConfig} :
    settle urlFlaw? lookup config = .ok result ↔
      (config.override lookup).Valid urlFlaw? ∧ result = config.override lookup := by
  unfold settle
  rw [bind_eq_ok_iff]
  constructor
  · rintro ⟨_, valid, same⟩
    exact ⟨check_ok_iff.mp valid, (Except.ok.inj same).symm⟩
  · rintro ⟨valid, rfl⟩
    exact ⟨(), check_ok_iff.mpr valid, rfl⟩

/-- A document is accepted when it is well-formed and describes valid configurations, and then what
it describes is the result. -/
theorem configure_ok_iff {nodes : List Node} {lookup : String → Option String}
    {config : SystemConfig} :
    configure urlFlaw? lookup nodes = .ok config ↔
      WellFormed nodes ∧ (described unset nodes).Valid urlFlaw? ∧
        (described lookup nodes).Valid urlFlaw? ∧ config = described lookup nodes := by
  unfold configure
  rw [bind_eq_ok_iff]
  constructor
  · rintro ⟨written, accepted, settled⟩
    obtain ⟨wellFormed, valid, rfl⟩ := ofNodes_ok_iff.mp accepted
    rw [settle_ok_iff, override_described] at settled
    exact ⟨wellFormed, valid, settled⟩
  · rintro ⟨wellFormed, valid, settled⟩
    refine ⟨_, ofNodes_ok_iff.mpr ⟨wellFormed, valid, rfl⟩, ?_⟩
    rwa [settle_ok_iff, override_described]

/-- Two nodes have the same name and the same first argument. -/
def Alike (left right : Node) : Prop :=
  left.name = right.name ∧ left.firstArgument? = right.firstArgument?

/-- Of a node, the orchestrator's part reads the name and the first argument. -/
theorem applyOrchestrator_alike {left right : Node} (alike : Alike left right)
    (config : OrchestratorConfig) :
    applyOrchestrator config left = applyOrchestrator config right := by
  obtain ⟨name, argument⟩ := alike
  simp only [applyOrchestrator, textSetting, secondsSetting, millisSetting, truthSetting,
    connectionsSetting, wholeSetting, name, argument]

/-- Of a node, the workers' part reads the name and the first argument. -/
theorem applyWorker_alike {left right : Node} (alike : Alike left right) (config : WorkerConfig) :
    applyWorker config left = applyWorker config right := by
  obtain ⟨name, argument⟩ := alike
  simp only [applyWorker, textSetting, secondsSetting, millisSetting, wholeSetting, name,
    argument]

/-- A node with its first argument and nothing else. -/
def bare (node : Node) : Node :=
  .mk node.name ((arguments node).head?.map fun value => ⟨none, value⟩).toList none

/-- A node without the rest is read as before. -/
theorem alike_bare (node : Node) : Alike (bare node) node := by
  constructor
  · rfl
  · rw [bare, ← firstArgument?_eq]
    cases argument : node.firstArgument? with
    | none => rfl
    | some value => rfl

/-- Of some nodes, those that name settings, with their first arguments and nothing else. -/
def pruned (kind? : String → Option Kind) (nodes : List Node) : List Node :=
  (nodes.filter fun node => (kind? node.name).isSome).map bare

/-- A section with what names settings in it, if there is anything. -/
def prunedSection? (kind? : String → Option Kind) (node : Node) : Option Node :=
  match pruned kind? (node.children.getD []) with
  | [] => none
  | kept => some (.mk node.name [] (some kept))

/-- What of a node of a document can have an effect. -/
def essence? (node : Node) : Option Node :=
  if node.name = "orchestrator" then prunedSection? orchestratorKind? node
  else if node.name = "worker" then prunedSection? workerKind? node
  else if (documentKind? node.name).isSome then some (bare node)
  else none

/-- The rest of some nodes is without effect. -/
theorem foldlM_pruned {kind? : String → Option Kind} {Part : Type}
    {apply : Part → Node → Except ConfigError Part}
    (alike : ∀ {left right}, Alike left right → ∀ part, apply part left = apply part right)
    (unnamed : ∀ {node}, kind? node.name = none → ∀ part, apply part node = .ok part)
    (nodes : List Node) (part : Part) :
    (pruned kind? nodes).foldlM apply part = nodes.foldlM apply part := by
  induction nodes generalizing part with
  | nil => rfl
  | cons node rest ih =>
    rw [List.foldlM_cons]
    by_cases known : (kind? node.name).isSome
    · have kept : pruned kind? (node :: rest) = bare node :: pruned kind? rest := by
        simp [pruned, known]
      rw [kept, List.foldlM_cons, alike (alike_bare node)]
      exact bind_congr ih
    · have dropped : pruned kind? (node :: rest) = pruned kind? rest := by
        simp [pruned, known]
      rw [dropped, ih part, unnamed (Option.not_isSome_iff_eq_none.mp known)]
      rfl

/-- A node that names no setting leaves the orchestrator's part as it is. -/
theorem applyOrchestrator_unnamed {node : Node} (unnamed : orchestratorKind? node.name = none)
    (config : OrchestratorConfig) : applyOrchestrator config node = .ok config := by
  unfold orchestratorKind? at unnamed
  unfold applyOrchestrator
  split <;> simp_all [pure, Except.pure]

/-- A node that names no setting leaves the workers' part as it is. -/
theorem applyWorker_unnamed {node : Node} (unnamed : workerKind? node.name = none)
    (config : WorkerConfig) : applyWorker config node = .ok config := by
  unfold workerKind? at unnamed
  unfold applyWorker
  split <;> simp_all [pure, Except.pure]

/-- The rest of a section is without effect, and so is a section without settings. -/
theorem foldlM_prunedSection? {kind? : String → Option Kind} {Part : Type}
    {apply : Part → Node → Except ConfigError Part}
    (alike : ∀ {left right}, Alike left right → ∀ part, apply part left = apply part right)
    (unnamed : ∀ {node}, kind? node.name = none → ∀ part, apply part node = .ok part)
    {node : Node} {config : SystemConfig} {part : Part} (put : Part → SystemConfig)
    (puts : put part = config)
    (applies : ∀ other : Node, other.name = node.name → applyNode config other =
      (other.children.getD []).foldlM apply part >>= fun part => .ok (put part)) :
    (prunedSection? kind? node).toList.foldlM applyNode config = applyNode config node := by
  have same := foldlM_pruned alike unnamed (node.children.getD []) part
  rw [applies node rfl, ← same]
  unfold prunedSection?
  split
  · rename_i empty
    rw [empty, Option.toList_none, List.foldlM_nil, List.foldlM_nil, ← puts]
    rfl
  · rw [Option.toList_some, List.foldlM_cons, applies (.mk node.name [] _) rfl]
    simp [Node.children]

/-- The rest of a node of a document is without effect. -/
theorem applyNode_essence (config : SystemConfig) (node : Node) :
    (essence? node).toList.foldlM applyNode config = applyNode config node := by
  by_cases first : node.name = "orchestrator"
  · rw [essence?, if_pos first]
    refine foldlM_prunedSection? applyOrchestrator_alike applyOrchestrator_unnamed
      (fun part => { config with orchestrator := part }) rfl ?_
    intro other same
    simp only [applyNode, same, first]
    rfl
  by_cases second : node.name = "worker"
  · rw [essence?, if_neg first, if_pos second]
    refine foldlM_prunedSection? applyWorker_alike applyWorker_unnamed
      (fun part => { config with worker := part }) rfl ?_
    intro other same
    simp only [applyNode, same, second]
    rfl
  rw [essence?, if_neg first, if_neg second]
  by_cases third : node.name = "log-format"
  · have known : (documentKind? node.name).isSome := by rw [third]; rfl
    obtain ⟨name, argument⟩ := alike_bare node
    rw [if_pos known, Option.toList_some, List.foldlM_cons]
    simp [applyNode, logSetting, name, third, argument]
  · have unknown : (documentKind? node.name).isSome = false := by
      unfold documentKind?
      split
      · contradiction
      · rfl
    rw [if_neg (by simp [unknown]), Option.toList_none, List.foldlM_nil]
    unfold applyNode
    split
    · contradiction
    · contradiction
    · contradiction
    · rfl

/-- The rest of a document is without effect. -/
theorem ofNodes_essence (nodes : List Node) :
    ofNodes urlFlaw? (nodes.filterMap essence?) = ofNodes urlFlaw? nodes := by
  have folded : ∀ config, (nodes.filterMap essence?).foldlM applyNode config =
      nodes.foldlM applyNode config := by
    induction nodes with
    | nil => intro config; rfl
    | cons node rest ih =>
      intro config
      have split : (node :: rest).filterMap essence? =
          (essence? node).toList ++ rest.filterMap essence? := by
        cases kept : essence? node <;> simp [kept]
      rw [split, List.foldlM_append, applyNode_essence, List.foldlM_cons]
      exact bind_congr ih
  unfold ofNodes
  rw [folded]

/-- The order of nodes with different names has been changed, also among the children of nodes. -/
inductive Reordered : List Node → List Node → Prop
  | refl (nodes : List Node) : Reordered nodes nodes
  | swap {left right : Node} (apart : left.name ≠ right.name) (rest : List Node) :
      Reordered (left :: right :: rest) (right :: left :: rest)
  | inside {children others : List Node} (inner : Reordered children others) (name : String)
      (entries : List Entry) (rest : List Node) :
      Reordered (.mk name entries (some children) :: rest) (.mk name entries (some others) :: rest)
  | cons {nodes others : List Node} (node : Node) (rest : Reordered nodes others) :
      Reordered (node :: nodes) (node :: others)
  | trans {first second third : List Node} (one : Reordered first second)
      (other : Reordered second third) : Reordered first third

namespace Reordered

variable {nodes others : List Node}

/-- Other nodes may stand before. -/
theorem append_left (reordered : Reordered nodes others) (before : List Node) :
    Reordered (before ++ nodes) (before ++ others) := by
  induction before with
  | nil => exact reordered
  | cons node before ih => exact .cons node ih

/-- Other nodes may stand behind. -/
theorem append_right (reordered : Reordered nodes others) (after : List Node) :
    Reordered (nodes ++ after) (others ++ after) := by
  induction reordered with
  | refl nodes => exact .refl _
  | swap apart rest => exact .swap apart (rest ++ after)
  | inside inner name entries rest => exact .inside inner name entries (rest ++ after)
  | cons node _ ih => exact .cons node ih
  | trans _ _ one other => exact .trans one other

/-- Among the nodes of one name the first arguments stay in order. -/
theorem firstArguments (reordered : Reordered nodes others) (name : String) :
    (nodes.filter fun node => node.name = name).map (fun node => (arguments node).head?) =
      (others.filter fun node => node.name = name).map fun node => (arguments node).head? := by
  induction reordered with
  | refl nodes => rfl
  | @swap left right apart rest =>
    by_cases named : left.name = name
    · have other : right.name ≠ name := fun same => apart (named.trans same.symm)
      simp [named, other]
    · simp [List.filter_cons, named]
  | inside inner title entries rest =>
    by_cases named : title = name
    · simp [Node.name, named]
      rfl
    · simp [Node.name, named]
  | cons node _ ih =>
    by_cases named : node.name = name
    · simp [named, ih]
    · simp [named, ih]
  | trans _ _ one other => exact one.trans other

/-- So the last of them says the same. -/
theorem setting_eq {α : Type} (reordered : Reordered nodes others) (read? : Value → Option α)
    (standard : α) (name : String) :
    setting read? standard name nodes = setting read? standard name others := by
  have arguments := congrArg List.getLast? (reordered.firstArguments name)
  rw [List.getLast?_map, List.getLast?_map] at arguments
  unfold setting last?
  generalize (nodes.filter fun node => node.name = name).getLast? = left at arguments ⊢
  generalize (others.filter fun node => node.name = name).getLast? = right at arguments ⊢
  cases left <;> cases right <;> simp_all

/-- The children of the sections of a name are reordered at most. -/
theorem inSections (reordered : Reordered nodes others) (name : String) :
    Reordered (SystemConfig.inSections name nodes) (SystemConfig.inSections name others) := by
  have step : ∀ node rest, SystemConfig.inSections name (node :: rest) =
      (if node.name = name then node.children.getD [] else []) ++
        SystemConfig.inSections name rest := by
    intro node rest
    unfold SystemConfig.inSections
    by_cases named : node.name = name <;> simp [named]
  induction reordered with
  | refl nodes => exact .refl _
  | @swap left right apart rest =>
    rw [step, step, step, step]
    by_cases named : left.name = name
    · have other : right.name ≠ name := fun same => apart (named.trans same.symm)
      rw [if_neg other, List.nil_append, List.nil_append]
      exact .refl _
    · rw [if_neg named, List.nil_append, List.nil_append]
      exact .refl _
  | @inside children others inner title entries rest =>
    rw [step, step]
    apply append_right
    have left : (Node.mk title entries (some children)).name = title := rfl
    have right : (Node.mk title entries (some others)).name = title := rfl
    rw [left, right]
    by_cases named : title = name
    · rw [if_pos named, if_pos named]
      exact inner
    · rw [if_neg named, if_neg named]
      exact .refl _
  | cons node _ ih =>
    rw [step, step]
    exact ih.append_left _
  | trans _ _ one other => exact .trans one other

/-- Nodes that fit still do. -/
theorem fits (reordered : Reordered nodes others) {kind? : String → Option Kind}
    (fit : ∀ node ∈ nodes, Fits kind? node) : ∀ node ∈ others, Fits kind? node := by
  induction reordered with
  | refl nodes => exact fit
  | swap apart rest =>
    simp only [List.forall_mem_cons] at fit ⊢
    exact ⟨fit.2.1, fit.1, fit.2.2⟩
  | inside inner name entries rest =>
    rw [List.forall_mem_cons] at fit ⊢
    exact fit
  | cons node _ ih =>
    rw [List.forall_mem_cons] at fit ⊢
    exact ⟨fit.1, ih fit.2⟩
  | trans _ _ one other => exact other (one fit)

/-- A well-formed document still is. -/
theorem wellFormed (reordered : Reordered nodes others) (wellFormed : WellFormed nodes) :
    WellFormed others where
  outside := reordered.fits wellFormed.outside
  orchestrator := (reordered.inSections "orchestrator").fits wellFormed.orchestrator
  worker := (reordered.inSections "worker").fits wellFormed.worker

/-- The described configuration stays. -/
theorem described (reordered : Reordered nodes others) (lookup : String → Option String) :
    SystemConfig.described lookup nodes = SystemConfig.described lookup others := by
  have orchestrator : describedOrchestrator lookup (SystemConfig.inSections "orchestrator" nodes) =
      describedOrchestrator lookup (SystemConfig.inSections "orchestrator" others) := by
    simp only [describedOrchestrator, (reordered.inSections "orchestrator").setting_eq]
  have worker : describedWorker lookup (SystemConfig.inSections "worker" nodes) =
      describedWorker lookup (SystemConfig.inSections "worker" others) := by
    simp only [describedWorker, (reordered.inSections "worker").setting_eq]
  simp only [SystemConfig.described, orchestrator, worker, reordered.setting_eq]

end Reordered

/-- What an environment makes of documents, where something is said to be wrong with some URLs. -/
structure Lawful (urlFlaw? : String → Option String) (lookup : String → Option String) :
    Prop where
  /-- A document makes a configuration exactly when its settings all have arguments of the right
  kind, and it describes valid configurations without the environment and with it; then it makes the
  latter. -/
  accepts : ∀ nodes config, configure urlFlaw? lookup nodes = .ok config ↔
    WellFormed nodes ∧ (described unset nodes).Valid urlFlaw? ∧
      (described lookup nodes).Valid urlFlaw? ∧ config = described lookup nodes
  /-- Documents that agree in what names settings make the same, be it an error. -/
  essential : ∀ one other, one.filterMap essence? = other.filterMap essence? →
    configure urlFlaw? lookup one = configure urlFlaw? lookup other
  /-- The order of nodes with different names is without effect on what is accepted. -/
  unordered : ∀ one other config, Reordered one other →
    configure urlFlaw? lookup one = .ok config → configure urlFlaw? lookup other = .ok config
  /-- What is accepted is valid. -/
  valid : ∀ nodes config, configure urlFlaw? lookup nodes = .ok config → config.Valid urlFlaw?
  /-- A text makes what its document makes, whatever texts are documents. -/
  texts : ∀ document? text, Foundation.load ⟨document?, urlFlaw?⟩ (some text) lookup =
    (document? text).elim (.error .parse) (configure urlFlaw? lookup)

/-- In every environment, documents make configurations by these laws. -/
theorem configure_lawful (urlFlaw? : String → Option String) (lookup : String → Option String) :
    Lawful urlFlaw? lookup where
  accepts _ _ := configure_ok_iff
  essential one other same := by
    unfold configure
    rw [← ofNodes_essence one, same, ofNodes_essence other]
  unordered one other config reordered accepted := by
    obtain ⟨wellFormed, valid, overridden, same⟩ := configure_ok_iff.mp accepted
    have without := reordered.described unset
    have within := reordered.described lookup
    apply configure_ok_iff.mpr
    exact ⟨reordered.wellFormed wellFormed, without ▸ valid, within ▸ overridden, same.trans within⟩
  valid nodes config accepted := by
    obtain ⟨-, -, valid, rfl⟩ := configure_ok_iff.mp accepted
    exact valid
  texts document? text := load_some document? text lookup

/-- Texts with the scheme of a URL are not said to be wrong. -/
def schemeFlaw? (text : String) : Option String :=
  let schemes := ["http://", "redis://", "postgres://"]
  if schemes.any fun scheme => scheme.toList.isPrefixOf text.toList then none
  else some "relative URL without a base"

/-- A document with two sections of the orchestrator, and whatever else has no effect. -/
def twoSections : List Node :=
  [.mk "orchestrator" [] (some [.mk "queue-key" [⟨none, .string "first"⟩] none,
      .mk "redis-url" [⟨none, .string "redis://cache"⟩] none,
      .mk "max-connections" [⟨some "unit", .null⟩, ⟨none, .integer 20⟩, ⟨none, .null⟩] none]),
    .mk "worker" [] none,
    .mk "colour" [⟨none, .boolean true⟩] none,
    .mk "orchestrator" [] (some [.mk "queue-key" [⟨none, .string "second"⟩] none])]

/-- The same document, but the queue key that is replaced is no text. -/
def mistyped : List Node :=
  .mk "orchestrator" [] (some [.mk "queue-key" [⟨none, .integer 1⟩] none]) :: twoSections

/-- Of two documents that describe the same, one is accepted and the other refused. -/
theorem lawful_of_twoSections :
    let lookup (name : String) : Option String :=
      if name = "REDIS_URL" then some "redis://queue" else none
    let config : SystemConfig := { standard with
      orchestrator := { standard.orchestrator with
        queueKey := "second", redisUrl := "redis://queue", maxConnections := 20 }
      worker := { standard.worker with redisUrl := "redis://queue" } }
    configure schemeFlaw? lookup twoSections = .ok config ∧
      configure schemeFlaw? lookup mistyped =
        .error (.invalidValue "queue-key" "expected a string") ∧
      Lawful schemeFlaw? lookup := by
  intro lookup config
  have accepted : (configure schemeFlaw? lookup twoSections).toOption = some config := by
    decide +kernel
  exact ⟨toOption_eq_some_iff.mp accepted, rfl, configure_lawful schemeFlaw? lookup⟩

end SystemConfig

end JobDispatch
