import CfFw.ProxyReply
import CfFw.Transition

/-! Traffic through the proxy while routes come and go. Each request runs in a task of its
own, which keeps the route it looked up when the request arrived: the counters it adds to
are those of that registration, whatever the registry says by then. The daemon's three
ways of changing the registry may happen between any two steps of the tasks. -/
namespace CfFw.ProxyTraffic
open Transition

variable {R : Type} [Rng R] {http : Http} {rewriting : Rewriting http} {β : Type}

/-! ### Tasks -/

/-- Where the task of a forwarded request is. A joining task waits for both sides to
upgrade, a bridged one copies between them. -/
inductive Phase (http : Http) where
  | sending
  | failed (response : OwnResponse)
  | relaying (head : ResponseHead http)
  | joining (head : ResponseHead http)
  | bridged (head : ResponseHead http)

/-- A request that was sent to a service, and the bytes counted for it so far. -/
structure Task (http : Http) where
  slug : String
  route : ProxyRoute
  upgrading : Bool
  phase : Phase http
  uploaded : Nat
  downloaded : Nat

def Task.carried (task : Task http) : Direction → Nat
  | .upload => task.uploaded
  | .download => task.downloaded

def Task.carry (task : Task http) (size : Nat) : Direction → Task http
  | .upload => { task with uploaded := task.uploaded + size }
  | .download => { task with downloaded := task.downloaded + size }

/-- What a frame counts for. -/
def size : BodyFrame → Nat
  | .data bytes => (UInt64.ofNat bytes.length).toNat
  | .trailers => 0

/-- `CountedIo::poll_read`, when the inner stream filled in these bytes. -/
def countedRead (direction : Direction) (bytes : List UInt8) (metrics : RouteMetrics) :
    RouteMetrics :=
  let read := UInt64.ofNat bytes.length
  if read ≠ 0 then metrics.record read direction else metrics

/-! ### The proxy and the registry -/

/-- The registry, every `RouteMetrics` allocated so far, and the tasks in the order their
requests arrived. -/
structure Traffic (http : Http) where
  registry : RouteRegistry
  allocated : Nat
  counters : Nat → RouteMetrics
  tasks : List (Task http)

def Traffic.start : Traffic http := ⟨.new, 0, fun _ => .new, []⟩

/-- One step of the daemon, of the accept loop or of some task. The outcome of a send, the
frames of a body and the bytes on an upgraded connection come from outside. -/
inductive Event (R : Type) (rewriting : Rewriting http) (β : Type) where
  | register (port : UInt16) (requested : Option String) (ownerSession : UInt64)
      (ownerPid : UInt32) (rng : R) (createdAt : Nat)
  | removeSession (session : UInt64)
  | clear
  | request (request : ClientRequest rewriting β)
  | settle (task : Nat) (outcome : SendOutcome http)
  | frame (task : Nat) (direction : Direction) (frame : BodyFrame)
  | join (task : Nat)
  | read (task : Nat) (direction : Direction) (bytes : List UInt8)

/-- The task of a request that `forward` sends on. -/
def taskOf (registry : RouteRegistry) (baseDomain : String) (request : ClientRequest rewriting β) :
    Option (Task http) :=
  match extractPublicHost request.toRequest baseDomain, forward registry baseDomain request with
  | some publicHost, .upstream _ route =>
    some ⟨publicHost.slug, route, isUpgrade request.headers, .sending, 0, 0⟩
  | _, _ => none

/-- The phase after the send. -/
def Task.settled (task : Task http) (outcome : SendOutcome http) : Phase http :=
  match receive task.route task.upgrading outcome with
  | .own response => .failed response
  | .relayed head _ bridged => if bridged then .joining head else .relaying head

/-- Whether frames of a direction can come by: the request's body as long as the task is
there, the response's once there is one. -/
def Phase.carries : Phase http → Direction → Bool
  | _, .upload => true
  | .relaying _, .download => true
  | .joining _, .download => true
  | .bridged _, .download => true
  | _, _ => false

/-- The counters of one registration change, and the task knows how much it added. -/
def Traffic.count (state : Traffic http) (index : Nat) (task : Task http) (size : Nat)
    (direction : Direction) (counted : RouteMetrics → RouteMetrics) : Traffic http :=
  { state with
    counters := Function.update state.counters task.route.metrics
      (counted (state.counters task.route.metrics))
    tasks := state.tasks.set index (task.carry size direction) }

def Traffic.step (baseDomain : String) (state : Traffic http) :
    Event R rewriting β → Option (Traffic http)
  | .register port requested ownerSession ownerPid rng createdAt =>
    some { state with
      registry := (state.registry.registerWithRng port requested ownerSession ownerPid rng
        ⟨createdAt, state.allocated⟩).2.1
      allocated := state.allocated + 1
      counters := Function.update state.counters state.allocated .new }
  | .removeSession session => some { state with registry := (state.registry.removeSession session).2 }
  | .clear => some { state with registry := state.registry.clear.2 }
  | .request request =>
    some { state with tasks := state.tasks ++ (taskOf state.registry baseDomain request).toList }
  | .settle index outcome =>
    match state.tasks[index]? with
    | some task =>
      match task.phase with
      | .sending =>
        some { state with tasks := state.tasks.set index { task with phase := task.settled outcome } }
      | _ => none
    | none => none
  | .frame index direction frame =>
    match state.tasks[index]? with
    | some task =>
      if task.phase.carries direction then
        some (state.count index task (size frame) direction
          fun metrics => (countedFrame direction frame metrics).2)
      else none
    | none => none
  | .join index =>
    match state.tasks[index]? with
    | some task =>
      match task.phase with
      | .joining head =>
        some { state with tasks := state.tasks.set index { task with phase := .bridged head } }
      | _ => none
    | none => none
  | .read index direction bytes =>
    match state.tasks[index]? with
    | some task =>
      match task.phase with
      | .bridged _ =>
        some (state.count index task (size (.data bytes)) direction (countedRead direction bytes))
      | _ => none
    | none => none

/-! ### What one count adds -/

variable {state after : Traffic http} {baseDomain : String} {event : Event R rewriting β}
  {direction other : Direction} {metrics : RouteMetrics}

/-- A counter that went up by a number of bytes, as far as it goes. -/
def Adds (direction : Direction) (size : Nat) (counted : RouteMetrics → RouteMetrics) : Prop :=
  ∀ metrics other, ((counted metrics).total other).toNat =
    min maxU64 ((metrics.total other).toNat + if direction = other then size else 0)

private theorem total_le (metrics : RouteMetrics) (direction : Direction) :
    (metrics.total direction).toNat ≤ maxU64 :=
  Nat.le_of_lt_succ (metrics.total direction).toNat_lt

private theorem adds_record (direction : Direction) (bytes : UInt64) :
    Adds direction bytes.toNat fun metrics => metrics.record bytes direction := by
  intro metrics other
  rw [total_record]
  split
  · exact toNat_saturatingAdd _ _
  · rw [Nat.add_zero, Nat.min_eq_right (total_le metrics other)]

private theorem adds_nothing (direction : Direction) : Adds direction 0 id := by
  intro metrics other
  rw [ite_self, Nat.add_zero, Nat.min_eq_right (total_le _ other)]
  rfl

private theorem adds_countedFrame (direction : Direction) (frame : BodyFrame) :
    Adds direction (size frame) fun metrics => (countedFrame direction frame metrics).2 := by
  cases frame with
  | data bytes => exact adds_record direction _
  | trailers => exact adds_nothing direction

private theorem adds_countedRead (direction : Direction) (bytes : List UInt8) :
    Adds direction (size (.data bytes)) (countedRead direction bytes) := by
  by_cases none : UInt64.ofNat bytes.length = 0
  · have nothing : countedRead direction bytes = id := by
      funext metrics
      rw [countedRead, if_neg (not_not.mpr none), id]
    rw [nothing, size, none]
    exact adds_nothing direction
  · have records : countedRead direction bytes =
        fun metrics => metrics.record (UInt64.ofNat bytes.length) direction := by
      funext metrics
      rw [countedRead, if_pos none]
    rw [records]
    exact adds_record direction _

/-! ### What one step can do -/

/-- Every kind of step, told by what it does to the registry, the counters and the tasks. -/
inductive Effect (state : Traffic http) : Traffic http → Prop where
  | register (outcome : Result Route) (registry : RouteRegistry)
      (registered : (∃ error, outcome = .error error ∧ registry = state.registry) ∨
        ∃ route, outcome = .ok route ∧ registry = state.registry.insertRoute route ∧
          state.registry.Addable route ∧ route.metrics = state.allocated) :
      Effect state { state with
        registry := registry
        allocated := state.allocated + 1
        counters := Function.update state.counters state.allocated .new }
  | remove (registry : RouteRegistry) (wellFormed : state.registry.WellFormed → registry.WellFormed)
      (kept : state.registry.WellFormed → ∀ route, registry.Live route → state.registry.Live route) :
      Effect state { state with registry := registry }
  | accept (task : Task http) (fresh : task.uploaded = 0 ∧ task.downloaded = 0)
      (found : state.registry.lookup task.slug = some task.route)
      (loopback : task.route.target.ip = .localhost) :
      Effect state { state with tasks := state.tasks ++ [task] }
  | refuse : Effect state state
  | advance (index : Nat) (task : Task http) (phase : Phase http)
      (present : state.tasks[index]? = some task) :
      Effect state { state with tasks := state.tasks.set index { task with phase := phase } }
  | count (index : Nat) (task : Task http) (size : Nat) (direction : Direction)
      (counted : RouteMetrics → RouteMetrics) (present : state.tasks[index]? = some task)
      (adds : Adds direction size counted) :
      Effect state (state.count index task size direction counted)

private theorem forward_upstream {registry : RouteRegistry} {request : ClientRequest rewriting β}
    {publicHost : PublicHost} {sent : UpstreamRequest rewriting β} {route : ProxyRoute}
    (named : extractPublicHost request.toRequest baseDomain = some publicHost)
    (forwarded : forward registry baseDomain request = .upstream sent route) :
    registry.lookup publicHost.slug = some route ∧ route.target.ip = .localhost := by
  simp only [forward, named] at forwarded
  cases found : registry.lookup publicHost.slug with
  | none => simp [found] at forwarded
  | some target =>
    simp only [found] at forwarded
    by_cases remote : target.target.ip ≠ .localhost
    · simp [if_pos remote] at forwarded
    · rw [if_neg remote] at forwarded
      split at forwarded
      · cases forwarded
      · cases forwarded
        exact ⟨rfl, not_not.mp remote⟩

private theorem taskOf_eq_some {registry : RouteRegistry} {request : ClientRequest rewriting β}
    {task : Task http} (accepted : taskOf registry baseDomain request = some task) :
    (task.uploaded = 0 ∧ task.downloaded = 0) ∧ registry.lookup task.slug = some task.route ∧
      task.route.target.ip = .localhost := by
  unfold taskOf at accepted
  split at accepted
  · rename_i named forwarded
    cases accepted
    exact ⟨⟨rfl, rfl⟩, forward_upstream named forwarded⟩
  · cases accepted

private theorem registered_metrics {registry : RouteRegistry} {port : UInt16}
    {requested : Option String}
    {ownerSession : UInt64} {ownerPid : UInt32} {rng rest : R} {stamp : Stamp} {route : Route}
    {grown : RouteRegistry}
    (registered : registry.registerWithRng port requested ownerSession ownerPid rng stamp =
      (.ok route, grown, rest)) : route.metrics = stamp.metrics := by
  unfold RouteRegistry.registerWithRng at registered
  split at registered
  · cases registered
  · split at registered
    · cases registered
    · split at registered
      · cases registered
      · cases registered
        rfl

/-- A step has one of these effects. -/
theorem effect_of_step (taken : state.step baseDomain event = some after) : Effect state after := by
  cases event with
  | register port requested ownerSession ownerPid rng createdAt =>
    cases taken
    rcases RouteRegistry.registerWithRng_cases state.registry port requested ownerSession ownerPid
      rng ⟨createdAt, state.allocated⟩ with
      ⟨error, rest, failed⟩ | ⟨route, rest, registered, addable, _⟩
    · apply Effect.register (.error error)
      exact .inl ⟨error, rfl, by rw [failed]⟩
    · apply Effect.register (.ok route)
      exact .inr ⟨route, rfl, by rw [registered], addable, registered_metrics registered⟩
  | removeSession session =>
    cases taken
    exact .remove _ (fun wellFormed => wellFormed.removeSession session)
      fun wellFormed route live => ((RouteRegistry.live_removeSession wellFormed).mp live).1
  | clear =>
    cases taken
    exact .remove _ (fun _ => RouteRegistry.wellFormed_new)
      fun _ route live => absurd live (RouteRegistry.not_live_new route)
  | request request =>
    cases taken
    cases accepted : taskOf state.registry baseDomain request with
    | none =>
      rw [Option.toList_none, List.append_nil]
      exact .refuse
    | some task =>
      obtain ⟨fresh, found, loopback⟩ := taskOf_eq_some accepted
      exact .accept task fresh found loopback
  | settle index outcome | join index =>
    simp only [Traffic.step] at taken
    split at taken
    · rename_i task present
      split at taken
      · cases taken
        exact .advance index task _ present
      · cases taken
    · cases taken
  | frame index direction frame =>
    simp only [Traffic.step] at taken
    split at taken
    · rename_i task present
      split at taken
      · cases taken
        exact .count index task _ direction _ present (adds_countedFrame direction frame)
      · cases taken
    · cases taken
  | read index direction bytes =>
    simp only [Traffic.step] at taken
    split at taken
    · rename_i task present
      split at taken
      · cases taken
        exact .count index task _ direction _ present (adds_countedRead direction bytes)
      · cases taken
    · cases taken

/-! ### Accounting -/

/-- What the chosen tasks carried together. -/
def carriedBy (chosen : Task http → Prop) [DecidablePred chosen] (tasks : List (Task http))
    (direction : Direction) : Nat :=
  (tasks.map fun task => if chosen task then task.carried direction else 0).sum

/-- A task that adds to the counters of a handle. -/
def Charges (handle : Nat) (task : Task http) : Prop := task.route.metrics = handle

instance (handle : Nat) : DecidablePred (@Charges http handle) :=
  fun task => inferInstanceAs (Decidable (task.route.metrics = handle))

section sums

variable {chosen : Task http → Prop} [DecidablePred chosen] {tasks more : List (Task http)}
  {task changed : Task http} {index : Nat}

private theorem carriedBy_append : carriedBy chosen (tasks ++ more) direction =
    carriedBy chosen tasks direction + carriedBy chosen more direction := by
  simp [carriedBy]

private theorem carriedBy_none (none : ∀ task ∈ tasks, ¬ chosen task) :
    carriedBy chosen tasks direction = 0 := by
  apply List.sum_eq_zero
  intro amount member
  obtain ⟨task, listed, rfl⟩ := List.mem_map.mp member
  rw [if_neg (none task listed)]

private theorem carriedBy_congr {same : Task http → Prop} [DecidablePred same]
    (agree : ∀ task ∈ tasks, chosen task ↔ same task) :
    carriedBy chosen tasks direction = carriedBy same tasks direction := by
  rw [carriedBy, carriedBy]
  congr 1
  apply List.map_congr_left
  intro task member
  simp only [agree task member]

/-- Replacing one task changes the sum by what that task carries. -/
theorem carriedBy_set (present : tasks[index]? = some task)
    (unmoved : chosen changed ↔ chosen task) :
    carriedBy chosen (tasks.set index changed) direction +
        (if chosen task then task.carried direction else 0) =
      carriedBy chosen tasks direction +
        (if chosen task then changed.carried direction else 0) := by
  induction tasks generalizing index with
  | nil => cases present
  | cons first rest ih =>
    cases index with
    | zero =>
      cases present
      simp only [List.set_cons_zero, carriedBy, List.map_cons, List.sum_cons, unmoved]
      omega
    | succ index =>
      have tail := ih present
      simp only [List.set_cons_succ, carriedBy, List.map_cons, List.sum_cons] at tail ⊢
      omega

private theorem carried_carry (size : Nat) : (task.carry size direction).carried other =
    task.carried other + if direction = other then size else 0 := by
  cases direction <;> cases other <;> rfl

private theorem route_carry (size : Nat) : (task.carry size direction).route = task.route := by
  cases direction <;> rfl

private theorem slug_carry (size : Nat) : (task.carry size direction).slug = task.slug := by
  cases direction <;> rfl

end sums

/-- Two stages of one request. -/
structure SameRequest (first second : Task http) : Prop where
  slug : first.slug = second.slug
  route : first.route = second.route

private theorem mem_set {tasks : List (Task http)} {task changed found : Task http} {index : Nat}
    (present : tasks[index]? = some task) (same : SameRequest changed task)
    (member : found ∈ tasks.set index changed) : ∃ earlier ∈ tasks, SameRequest found earlier := by
  rcases List.mem_or_eq_of_mem_set member with old | rfl
  · exact ⟨found, old, rfl, rfl⟩
  · exact ⟨task, List.mem_of_getElem? present, same⟩

private theorem sameRequest_carry (task : Task http) (size : Nat) (direction : Direction) :
    SameRequest (task.carry size direction) task :=
  ⟨slug_carry size, route_carry size⟩

/-- Every counter holds what the tasks of its registration carried, and a registration is
known by the handle of its counters. -/
structure Accounted (state : Traffic http) : Prop where
  wellFormed : state.registry.WellFormed
  totals (handle : Nat) (direction : Direction) :
    ((state.counters handle).total direction).toNat =
      min maxU64 (carriedBy (Charges handle) state.tasks direction)
  allocated : ∀ route, state.registry.Live route → route.metrics < state.allocated
  distinct : ∀ first second, state.registry.Live first → state.registry.Live second →
    first.metrics = second.metrics → first = second
  charged : ∀ task ∈ state.tasks, task.route.metrics < state.allocated
  loopback : ∀ task ∈ state.tasks, task.route.target.ip = .localhost
  named : ∀ task ∈ state.tasks, ∀ route, state.registry.Live route →
    task.route.metrics = route.metrics → task.slug = route.slug ∧ task.route.target = route.target
  alike : ∀ first ∈ state.tasks, ∀ second ∈ state.tasks,
    first.route.metrics = second.route.metrics → SameRequest first second

private theorem accounted_start : Accounted (@Traffic.start http) where
  wellFormed := RouteRegistry.wellFormed_new
  totals _ direction := by cases direction <;> rfl
  allocated route live := absurd live (RouteRegistry.not_live_new route)
  distinct first _ live := absurd live (RouteRegistry.not_live_new first)
  charged _ member := nomatch member
  loopback _ member := nomatch member
  named _ member := nomatch member
  alike _ member := nomatch member

theorem Accounted.register (accounted : Accounted state) {outcome : Result Route}
    {registry : RouteRegistry}
    (registered : (∃ error, outcome = .error error ∧ registry = state.registry) ∨
      ∃ route, outcome = .ok route ∧ registry = state.registry.insertRoute route ∧
        state.registry.Addable route ∧ route.metrics = state.allocated) :
    Accounted { state with
      registry := registry
      allocated := state.allocated + 1
      counters := Function.update state.counters state.allocated .new } := by
  have totals : ∀ handle direction,
      ((Function.update state.counters state.allocated .new handle).total direction).toNat =
        min maxU64 (carriedBy (Charges handle) state.tasks direction) := by
    intro handle direction
    by_cases same : handle = state.allocated
    · have unused : carriedBy (Charges handle) state.tasks direction = 0 := by
        apply carriedBy_none
        intro task member charges
        have below := accounted.charged task member
        rw [charges, same] at below
        exact Nat.lt_irrefl _ below
      rw [unused, same, Function.update_self]
      cases direction <;> rfl
    · rw [Function.update_of_ne same]
      exact accounted.totals handle direction
  have charged : ∀ task ∈ state.tasks, task.route.metrics < state.allocated + 1 :=
    fun task member => Nat.lt_succ_of_lt (accounted.charged task member)
  rcases registered with ⟨error, _, rfl⟩ | ⟨added, _, rfl, addable, handle⟩
  · exact { accounted with
      totals := totals
      allocated := fun route live => Nat.lt_succ_of_lt (accounted.allocated route live)
      charged := charged }
  · have live_iff := fun other =>
      @RouteRegistry.live_insertRoute state.registry added other addable.freeSlug
    refine ⟨accounted.wellFormed.insertRoute addable, totals, ?_, ?_, charged, accounted.loopback,
      ?_, accounted.alike⟩
    · intro route live
      rcases (live_iff route).mp live with rfl | live
      · exact handle ▸ Nat.lt_succ_self _
      · exact Nat.lt_succ_of_lt (accounted.allocated route live)
    · intro first second firstLive secondLive same
      rcases (live_iff first).mp firstLive with rfl | firstOld <;>
        rcases (live_iff second).mp secondLive with rfl | secondOld
      · rfl
      · have below := accounted.allocated second secondOld
        omega
      · have below := accounted.allocated first firstOld
        omega
      · exact accounted.distinct first second firstOld secondOld same
    · intro task member route live same
      rcases (live_iff route).mp live with rfl | live
      · have below := accounted.charged task member
        omega
      · exact accounted.named task member route live same

theorem Accounted.remove (accounted : Accounted state) {registry : RouteRegistry}
    (wellFormed : registry.WellFormed)
    (kept : ∀ route, registry.Live route → state.registry.Live route) :
    Accounted { state with registry := registry } :=
  { accounted with
    wellFormed := wellFormed
    allocated := fun route live => accounted.allocated route (kept route live)
    distinct := fun first second firstLive secondLive =>
      accounted.distinct first second (kept first firstLive) (kept second secondLive)
    named := fun task member route live => accounted.named task member route (kept route live) }

private theorem live_of_lookup (wellFormed : state.registry.WellFormed) {slug : String}
    {target : ProxyRoute} (found : state.registry.lookup slug = some target) :
    ∃ route, state.registry.Live route ∧ route.slug = slug ∧
      target = ⟨route.target, route.metrics⟩ := by
  obtain ⟨route, present, rfl⟩ := Option.map_eq_some_iff.mp found
  exact ⟨route, wellFormed.live present, wellFormed.keyed present, rfl⟩

theorem Accounted.accept (accounted : Accounted state) {task : Task http}
    (fresh : task.uploaded = 0 ∧ task.downloaded = 0)
    (found : state.registry.lookup task.slug = some task.route)
    (loopback : task.route.target.ip = .localhost) :
    Accounted { state with tasks := state.tasks ++ [task] } := by
  obtain ⟨route, live, slug, target⟩ := live_of_lookup accounted.wellFormed found
  have split : ∀ {listed}, listed ∈ state.tasks ++ [task] → listed ∈ state.tasks ∨ listed = task := by
    intro listed member
    simpa using member
  have handle : task.route.metrics = route.metrics := by rw [target]
  have agrees : ∀ listed ∈ state.tasks, listed.route.metrics = task.route.metrics →
      SameRequest listed task := by
    intro listed member same
    obtain ⟨sameSlug, sameTarget⟩ := accounted.named listed member route live (same.trans handle)
    refine ⟨sameSlug.trans slug, ?_⟩
    rw [target] at same ⊢
    exact congrArg₂ ProxyRoute.mk sameTarget same
  refine { accounted with
    totals := fun handle direction => ?_
    charged := fun listed member => ?_
    loopback := fun listed member => ?_
    named := fun listed member other otherLive same => ?_
    alike := fun first firstMember second secondMember same => ?_ }
  · have nothing : carriedBy (Charges handle) [task] direction = 0 := by
      cases direction <;> simp [carriedBy, Task.carried, fresh]
    rw [carriedBy_append, nothing, Nat.add_zero]
    exact accounted.totals handle direction
  · rcases split member with old | rfl
    · exact accounted.charged listed old
    · exact handle ▸ accounted.allocated route live
  · rcases split member with old | rfl
    · exact accounted.loopback listed old
    · exact loopback
  · rcases split member with old | rfl
    · exact accounted.named listed old other otherLive same
    · obtain rfl := accounted.distinct route other live otherLive (handle.symm.trans same)
      exact ⟨slug.symm, by rw [target]⟩
  · rcases split firstMember with firstOld | rfl <;> rcases split secondMember with secondOld | rfl
    · exact accounted.alike first firstOld second secondOld same
    · exact agrees first firstOld same
    · have reached := agrees second secondOld same.symm
      exact ⟨reached.slug.symm, reached.route.symm⟩
    · exact ⟨rfl, rfl⟩

/-- Replacing a task by a later stage of it, with counters that took up what it carried
since. -/
theorem Accounted.set (accounted : Accounted state) {index : Nat} {task changed : Task http}
    (present : state.tasks[index]? = some task) (same : SameRequest changed task)
    {counters : Nat → RouteMetrics}
    (totals : ∀ handle direction, ((counters handle).total direction).toNat =
      min maxU64 (carriedBy (Charges handle) (state.tasks.set index changed) direction)) :
    Accounted { state with counters := counters, tasks := state.tasks.set index changed } where
  wellFormed := accounted.wellFormed
  totals := totals
  allocated := accounted.allocated
  distinct := accounted.distinct
  charged listed member := by
    obtain ⟨earlier, old, stages⟩ := mem_set present same member
    exact stages.route ▸ accounted.charged earlier old
  loopback listed member := by
    obtain ⟨earlier, old, stages⟩ := mem_set present same member
    exact stages.route ▸ accounted.loopback earlier old
  named listed member route live handle := by
    obtain ⟨earlier, old, stages⟩ := mem_set present same member
    rw [stages.route] at handle ⊢
    rw [stages.slug]
    exact accounted.named earlier old route live handle
  alike first firstMember second secondMember handle := by
    obtain ⟨firstOld, firstListed, firstStages⟩ := mem_set present same firstMember
    obtain ⟨secondOld, secondListed, secondStages⟩ := mem_set present same secondMember
    rw [firstStages.route, secondStages.route] at handle
    have reached := accounted.alike firstOld firstListed secondOld secondListed handle
    exact ⟨(firstStages.slug.trans reached.slug).trans secondStages.slug.symm,
      (firstStages.route.trans reached.route).trans secondStages.route.symm⟩

private theorem charges_of_sameRequest {first second : Task http} (same : SameRequest first second)
    (handle : Nat) : Charges handle first ↔ Charges handle second := by
  rw [Charges, Charges, same.route]

theorem Accounted.count (accounted : Accounted state) {index size : Nat} {task : Task http}
    {counted : RouteMetrics → RouteMetrics} (present : state.tasks[index]? = some task)
    (adds : Adds direction size counted) :
    Accounted (state.count index task size direction counted) := by
  have same := sameRequest_carry task size direction
  apply accounted.set present same
  intro handle other
  have moved := @carriedBy_set http other (Charges handle) _ _ _ _ _ present
    (charges_of_sameRequest same handle)
  have before := accounted.totals handle other
  rw [carried_carry] at moved
  by_cases charged : task.route.metrics = handle
  · have charges : Charges handle task := charged
    rw [if_pos charges, if_pos charges] at moved
    rw [charged, Function.update_self, adds, before]
    omega
  · have spared : ¬ Charges handle task := charged
    rw [if_neg spared, if_neg spared] at moved
    rw [Function.update_of_ne (Ne.symm charged), before]
    omega

/-- One step keeps the account. -/
theorem Accounted.step (accounted : Accounted state)
    (taken : state.step baseDomain event = some after) : Accounted after := by
  cases effect_of_step taken with
  | register outcome registry registered => exact accounted.register registered
  | remove registry wellFormed kept =>
    exact accounted.remove (wellFormed accounted.wellFormed) (kept accounted.wellFormed)
  | accept task fresh found loopback => exact accounted.accept fresh found loopback
  | refuse => exact accounted
  | advance index task phase present =>
    have same : SameRequest { task with phase := phase } task := ⟨rfl, rfl⟩
    apply accounted.set present same
    intro handle direction
    have moved := @carriedBy_set http direction (Charges handle) _ _ _ _ _ present
      (charges_of_sameRequest same handle)
    have carried : ({ task with phase := phase } : Task http).carried direction =
        task.carried direction := by cases direction <;> rfl
    rw [carried] at moved
    rw [accounted.totals handle direction, Nat.add_right_cancel moved]
  | count index task size direction counted present adds => exact accounted.count present adds

variable {events past : List (Event R rewriting β)} {allowed : Traffic http → Event R rewriting β → Prop}

/-- In every run, whatever the order of the steps, the account is kept. -/
theorem accounted_run (run : Run (Traffic.step baseDomain) allowed .start events state) :
    Accounted state :=
  run.invariant Accounted accounted_start fun _ _ _ accounted _ taken => accounted.step taken

/-! ### One registration -/

/-- What is known, from the registration of a route on, of the tasks before and after it. -/
structure Since (count : Nat) (route : Route) (state : Traffic http) : Prop where
  counted : count ≤ state.tasks.length
  allocated : route.metrics < state.allocated
  earlier : ∀ task ∈ state.tasks.take count, task.route.metrics ≠ route.metrics
  later : state.registry.Live route → ∀ task ∈ state.tasks.drop count,
    task.slug = route.slug → task.route.metrics = route.metrics

variable {count : Nat} {route : Route}

/-- A later stage of one of the tasks is on the same side of the registration. -/
theorem Since.set (since : Since count route state) {index : Nat} {task changed : Task http}
    (present : state.tasks[index]? = some task) (same : SameRequest changed task)
    (counters : Nat → RouteMetrics) :
    Since count route { state with counters := counters, tasks := state.tasks.set index changed } where
  counted := by simpa using since.counted
  allocated := since.allocated
  earlier := by
    intro listed member
    rw [List.take_set] at member
    rcases List.mem_or_eq_of_mem_set member with old | rfl
    · exact since.earlier listed old
    · rw [same.route]
      by_cases before : index < count
      · apply since.earlier
        exact List.mem_of_getElem? (i := index) (by rw [List.getElem?_take_of_lt before, present])
      · rw [List.set_eq_of_length_le (by simp; omega)] at member
        exact same.route ▸ since.earlier listed member
  later := by
    intro live listed member slug
    rw [List.drop_set] at member
    split at member
    · exact since.later live listed member slug
    · rename_i notBefore
      rcases List.mem_or_eq_of_mem_set member with old | rfl
      · exact since.later live listed old slug
      · rw [same.route]
        rw [same.slug] at slug
        apply since.later live task ?_ slug
        refine List.mem_of_getElem? (i := index - count) ?_
        rw [List.getElem?_drop, Nat.add_sub_cancel' (by omega), present]

theorem Since.step (since : Since count route state) (wellFormed : state.registry.WellFormed)
    (taken : state.step baseDomain event = some after) : Since count route after := by
  cases effect_of_step taken with
  | register outcome registry registered =>
    refine ⟨since.counted, Nat.lt_succ_of_lt since.allocated, since.earlier, fun live => ?_⟩
    rcases registered with ⟨error, _, rfl⟩ | ⟨added, _, rfl, addable, handle⟩
    · exact since.later live
    · rcases (RouteRegistry.live_insertRoute addable.freeSlug).mp live with rfl | live
      · have below := since.allocated
        omega
      · exact since.later live
  | remove registry _ kept =>
    exact ⟨since.counted, since.allocated, since.earlier,
      fun live => since.later (kept wellFormed route live)⟩
  | accept task fresh found loopback =>
    refine ⟨?_, since.allocated, ?_, fun live listed member slug => ?_⟩
    · rw [List.length_append]
      exact Nat.le_add_right_of_le since.counted
    · rw [List.take_append_of_le_length since.counted]
      exact since.earlier
    · rw [List.drop_append_of_le_length since.counted, List.mem_append, List.mem_singleton] at member
      rcases member with old | rfl
      · exact since.later live listed old slug
      · rw [RouteRegistry.lookup, slug, RouteRegistry.routeForSlug, live, Option.map_some,
          Option.some.injEq] at found
        rw [← found]
  | refuse => exact since
  | advance index task phase present =>
    have same : SameRequest { task with phase := phase } task := ⟨rfl, rfl⟩
    exact since.set present same _
  | count index task size direction counted present _ =>
    exact since.set present (sameRequest_carry task size direction) _

/-- **What a route's session is shown is the traffic of that registration.** Whatever happened
before a route was registered and whatever happens until it is looked at, while it is live its
two counters hold exactly the bytes of the requests for its slug that arrived since its
registration, or the largest number when that is less: nothing of an earlier route under its
slug or on its port, nothing of any other route, and nothing twice. -/
theorem counters_are_of_the_registration {port : UInt16} {requested : Option String}
    {ownerSession : UInt64} {ownerPid : UInt32} {rng rest : R} {createdAt : Nat}
    {grown : RouteRegistry} {registering final : Traffic http}
    (before : Run (Traffic.step baseDomain) Unrestricted .start past state)
    (registered : state.registry.registerWithRng port requested ownerSession ownerPid rng
      ⟨createdAt, state.allocated⟩ = (.ok route, grown, rest))
    (taken : state.step baseDomain (.register port requested ownerSession ownerPid rng createdAt :
      Event R rewriting β) = some registering)
    (later : Run (Traffic.step baseDomain) Unrestricted registering events final)
    (live : final.registry.Live route) (direction : Direction) :
    ((final.counters route.metrics).total direction).toNat =
      min maxU64 (carriedBy (fun task => task.slug = route.slug)
        (final.tasks.drop state.tasks.length) direction) := by
  have accounted := accounted_run before
  have handle : route.metrics = state.allocated := registered_metrics registered
  have whole := (before.snoc trivial taken).append later
  have finished := accounted_run whole
  have since : Since state.tasks.length route final := by
    have middle : Since state.tasks.length route registering := by
      cases taken
      refine ⟨Nat.le_refl _, handle ▸ Nat.lt_succ_self _, fun task member => ?_, fun _ task member => ?_⟩
      · rw [handle]
        exact Nat.ne_of_lt (accounted.charged task (List.mem_of_mem_take member))
      · rw [List.drop_length] at member
        cases member
    have both := later.invariant
      (fun reached => Accounted reached ∧ Since state.tasks.length route reached)
      ⟨accounted_run (before.snoc trivial taken), middle⟩
      fun _ _ _ holds _ taken => ⟨holds.1.step taken, holds.2.step holds.1.wellFormed taken⟩
    exact both.2
  have parts : carriedBy (Charges route.metrics) final.tasks direction =
      carriedBy (Charges route.metrics) (final.tasks.drop state.tasks.length) direction := by
    have none : carriedBy (Charges route.metrics) (final.tasks.take state.tasks.length)
        direction = 0 := carriedBy_none since.earlier
    have whole := @carriedBy_append http direction (Charges route.metrics) _
      (final.tasks.take state.tasks.length) (final.tasks.drop state.tasks.length)
    rwa [List.take_append_drop, none, Nat.zero_add] at whole
  rw [finished.totals, parts]
  congr 1
  apply carriedBy_congr
  intro task member
  constructor
  · intro charges
    exact (finished.named task (List.mem_of_mem_drop member) route live charges).1
  · exact since.later live task member

/-- A slug changes hands while a request to its first owner is still under way. -/
def firstOwner : List (Event DrawStream textRewriting Unit) :=
  [.register 3000 (some "App") 1 42 ⟨[]⟩ 0, .request upgradeRequest,
    .frame 0 .upload (.data [1, 2]), .removeSession 1]

def secondOwner : List (Event DrawStream textRewriting Unit) :=
  [.request upgradeRequest, .frame 0 .upload (.data [3, 4, 5, 6]),
    .settle 1 (.response ⟨101, []⟩), .join 1, .read 1 .upload [7, 8, 9]]

def handedOver : Traffic textHttp :=
  ((execute (Traffic.step "example.com") .start firstOwner).bind fun state =>
    state.step "example.com" (.register 4000 (some "app") 2 43 ⟨[]⟩ 9 :
      Event DrawStream textRewriting Unit)).getD .start

def finished : Traffic textHttp :=
  (execute (Traffic.step "example.com") handedOver secondOwner).getD .start

theorem finished_counters :
    ((finished.counters 1).total .upload).toNat =
        min maxU64 (carriedBy (fun task => task.slug = "app") (finished.tasks.drop 1) .upload) ∧
      ((finished.counters 1).total .upload).toNat = 3 :=
  ⟨@counters_are_of_the_registration DrawStream _ textHttp textRewriting Unit _ "example.com" _ _
      ⟨"app", ⟨.localhost, 4000⟩, 2, 43, 9, 1⟩ 4000 (some "app") 2 43 ⟨[]⟩ ⟨[]⟩ 9 _ handedOver finished
      (@run_of_execute _ _ _ _ _ firstOwner rfl) rfl rfl (@run_of_execute _ _ _ _ _ secondOwner rfl)
      (by decide +kernel) .upload, by decide +kernel⟩

end CfFw.ProxyTraffic
