import CfFw.ConfigReplacement
import Mathlib.Data.List.Nodup

/-! The proxy port of the daemon: `reserve_listener` of `proxy/mod.rs` and what
`run` of `daemon/mod.rs` makes of its error. What the kernel answers to a bind and
the order of the shuffle are given. -/
namespace CfFw

/-- `(MIN_PROXY_PORT..=MAX_PROXY_PORT).collect()`. -/
def proxyPorts : List UInt16 :=
  (List.range' minProxyPort.toNat (maxProxyPort.toNat + 1 - minProxyPort.toNat)).map UInt16.ofNat

/-- What `TcpListener::bind` at 127.0.0.1 answers for each port. -/
abbrev Binds := UInt16 → Except IoError Unit

/-- What `reserve_listener` did: the ports it tried in order, and the port of its
listener or its error. -/
structure Reservation where
  tried : List UInt16
  outcome : Except IoError UInt16

/-- The loop of `reserve_listener`, and the error after it. -/
def bindPorts (bind : Binds) : Option IoError → List UInt16 → Reservation
  | lastError, [] =>
    ⟨[], .error (lastError.getD ⟨.addrNotAvailable, "no loopback proxy port is available"⟩)⟩
  | _, port :: ports =>
    match bind port with
    | .ok () => ⟨[port], .ok port⟩
    | .error error =>
      if error.kind = .addrInUse then
        let rest := bindPorts bind (some error) ports
        ⟨port :: rest.tried, rest.outcome⟩
      else ⟨[port], .error error⟩

/-- `proxy/mod.rs::reserve_listener`, for a shuffled list of the ports. -/
def reserveListener (bind : Binds) (order : List UInt16) : Reservation := bindPorts bind none order

/-- How `run` maps the error of `reserve_listener`. -/
def reservationError (error : IoError) : FwError :=
  match error.kind with
  | .addrNotAvailable => .noAvailableProxyPort
  | _ => error.toFwError

/-- `daemon/mod.rs::run`: `prepare` is what precedes the reservation, `serve` what
follows it. -/
def runDaemon (prepare : Result Unit) (bind : Binds) (order : List UInt16)
    (serve : UInt16 → Result Unit) : Result Unit :=
  match prepare with
  | .error error => .error error
  | .ok () =>
    match (reserveListener bind order).outcome with
    | .error error => .error (reservationError error)
    | .ok port => serve port

/-- The bind of a port fails with `AddrInUse`. -/
def InUse (bind : Binds) (port : UInt16) : Prop :=
  ∃ error, bind port = .error error ∧ error.kind = .addrInUse

/-- The bind of a port fails with `AddrNotAvailable`. -/
def NotAvailable (bind : Binds) (port : UInt16) : Prop :=
  ∃ error, bind port = .error error ∧ error.kind = .addrNotAvailable

/-- The port is the first of the order that is not in use. -/
def FirstFree (bind : Binds) (order : List UInt16) (port : UInt16) : Prop :=
  ¬ InUse bind port ∧ ∃ earlier later, order = earlier ++ port :: later ∧
    ∀ p ∈ earlier, InUse bind p

variable {bind : Binds} {order ports : List UInt16} {port : UInt16} {lastError : Option IoError}
  {prepare : Result Unit} {serve : UInt16 → Result Unit}

private theorem mem_proxyPorts : port ∈ proxyPorts ↔ minProxyPort ≤ port ∧ port ≤ maxProxyPort := by
  have low : minProxyPort.toNat = 10000 := rfl
  have high : maxProxyPort.toNat = 65535 := rfl
  simp only [proxyPorts, List.mem_map, List.mem_range'_1, UInt16.le_iff_toNat_le, low, high]
  constructor
  · rintro ⟨n, range, rfl⟩
    rw [UInt16.toNat_ofNat']
    omega
  · rintro ⟨above, below⟩
    exact ⟨port.toNat, by omega, UInt16.ofNat_toNat⟩

private theorem proxyPorts_nodup : proxyPorts.Nodup := by
  have low : minProxyPort.toNat = 10000 := rfl
  have high : maxProxyPort.toNat = 65535 := rfl
  refine List.Nodup.map_on ?_ List.nodup_range'
  intro n first m second same
  rw [List.mem_range'_1] at first second
  have value := congrArg UInt16.toNat same
  rw [UInt16.toNat_ofNat', UInt16.toNat_ofNat'] at value
  omega

private theorem proxyPorts_cons : ∃ rest, proxyPorts = minProxyPort :: 10001 :: rest := by
  have count : maxProxyPort.toNat + 1 - minProxyPort.toNat = 55534 + 1 + 1 := rfl
  rw [proxyPorts, count, List.range'_succ, List.range'_succ, List.map_cons, List.map_cons]
  exact ⟨_, rfl⟩

/-! ### The loop -/

/-- The ports that are tried are the first ones of the order. -/
theorem bindPorts_tried : (bindPorts bind lastError ports).tried <+: ports := by
  induction ports generalizing lastError with
  | nil => exact List.prefix_refl _
  | cons port ports ih =>
    rw [bindPorts]
    split
    · exact List.prefix_append [port] ports
    · split
      · exact (List.prefix_cons_inj port).mpr ih
      · exact List.prefix_append [port] ports

/-- Ports in use are passed over, and only the last of their errors is kept. -/
theorem bindPorts_append {earlier : List UInt16} (busy : ∀ p ∈ earlier, InUse bind p) :
    ∃ kept, (bindPorts bind lastError (earlier ++ ports)).outcome =
        (bindPorts bind kept ports).outcome ∧
      (earlier ≠ [] → ∃ p ∈ earlier, ∃ error, kept = some error ∧ bind p = .error error) := by
  induction earlier generalizing lastError with
  | nil => exact ⟨lastError, rfl, fun nonempty => absurd rfl nonempty⟩
  | cons first rest ih =>
    obtain ⟨error, failed, kind⟩ := busy first List.mem_cons_self
    have later : ∀ p ∈ rest, InUse bind p := fun p member => busy p (List.mem_cons_of_mem _ member)
    obtain ⟨kept, same, last⟩ := @ih (some error) later
    have step : (bindPorts bind lastError (first :: rest ++ ports)).outcome =
        (bindPorts bind (some error) (rest ++ ports)).outcome := by
      rw [List.cons_append, bindPorts, failed]
      simp only [kind, ↓reduceIte]
    by_cases empty : rest = []
    · subst empty
      exact ⟨some error, step, fun _ => ⟨first, List.mem_cons_self, error, rfl, failed⟩⟩
    · obtain ⟨p, member, found⟩ := last empty
      exact ⟨kept, step.trans same, fun _ => ⟨p, List.mem_cons_of_mem _ member, found⟩⟩

/-- The loop ends at the first port that is not in use. -/
theorem bindPorts_cons (free : ¬ InUse bind port) :
    (bindPorts bind lastError (port :: ports)).outcome = (bind port).map fun _ => port := by
  rw [bindPorts]
  cases answer : bind port with
  | ok _ => rfl
  | error error =>
    have other : error.kind ≠ .addrInUse := fun kind => free ⟨error, answer, kind⟩
    simp only [other, ↓reduceIte]
    rfl

/-- Either every port is in use, or there is a first one that is not. -/
theorem exhausted_or_firstFree (bind : Binds) (order : List UInt16) :
    (∀ p ∈ order, InUse bind p) ∨ ∃ port ∈ order, FirstFree bind order port := by
  induction order with
  | nil => exact .inl (List.forall_mem_nil _)
  | cons first rest ih =>
    by_cases busy : InUse bind first
    · rcases ih with all | ⟨port, member, free, earlier, later, rfl, before⟩
      · exact .inl (List.forall_mem_cons.mpr ⟨busy, all⟩)
      · exact .inr ⟨port, List.mem_cons_of_mem _ member, free, first :: earlier, later, rfl,
          List.forall_mem_cons.mpr ⟨busy, before⟩⟩
    · exact .inr ⟨first, List.mem_cons_self, busy, [], rest, rfl, List.forall_mem_nil _⟩

/-- With every port in use the error of the loop is that of one of them. -/
theorem reserveListener_exhausted (nonempty : order ≠ []) (busy : ∀ p ∈ order, InUse bind p) :
    ∃ port ∈ order, ∃ error,
      (reserveListener bind order).outcome = .error error ∧ bind port = .error error := by
  obtain ⟨kept, same, last⟩ := @bindPorts_append bind [] none order busy
  obtain ⟨port, member, error, rfl, failed⟩ := last nonempty
  rw [List.append_nil] at same
  exact ⟨port, member, error, same, failed⟩

/-- Past the ports in use the answer of the next one decides. -/
theorem FirstFree.outcome (first : FirstFree bind order port) :
    (reserveListener bind order).outcome = (bind port).map fun _ => port := by
  obtain ⟨free, earlier, later, rfl, busy⟩ := first
  obtain ⟨kept, same, _⟩ := @bindPorts_append bind (port :: later) none earlier busy
  exact same.trans (bindPorts_cons free)

private theorem reserveListener_ok_iff :
    (reserveListener bind order).outcome = .ok port ↔
      FirstFree bind order port ∧ bind port = .ok () := by
  constructor
  · intro bound
    rcases exhausted_or_firstFree bind order with all | ⟨first, _, free⟩
    · by_cases empty : order = []
      · subst empty
        cases bound
      · obtain ⟨_, _, error, failed, _⟩ := reserveListener_exhausted empty all
        rw [failed] at bound
        cases bound
    · have decided := free.outcome
      rw [bound] at decided
      cases answer : bind first with
      | error error =>
        rw [answer] at decided
        cases decided
      | ok _ =>
        rw [answer] at decided
        cases decided
        exact ⟨free, answer⟩
  · rintro ⟨free, bound⟩
    rw [free.outcome, bound]
    rfl

/-! ### The error of the daemon -/

private theorem reservationError_eq_iff {error : IoError} :
    reservationError error = .noAvailableProxyPort ↔ error.kind = .addrNotAvailable := by
  rw [reservationError]
  split
  · rename_i kind
    exact iff_of_true rfl kind
  · rename_i other
    refine iff_of_false (fun same => ?_) other
    cases same

theorem FirstFree.notAvailable_iff (first : FirstFree bind order port) :
    NotAvailable bind port ↔
      ∃ error, (reserveListener bind order).outcome = .error error ∧
        error.kind = .addrNotAvailable := by
  rw [first.outcome, NotAvailable]
  cases bind port with
  | ok _ => simp [Except.map]
  | error error => simp [Except.map]

/-- With every port in use startup fails with the I/O error of a bind. -/
theorem runDaemon_exhausted (nonempty : order ≠ []) (busy : ∀ p ∈ order, InUse bind p) :
    ∃ port ∈ order, ∃ error, bind port = .error error ∧
      runDaemon (.ok ()) bind order serve = .error error.toFwError := by
  obtain ⟨port, member, error, failed, answer⟩ := reserveListener_exhausted nonempty busy
  obtain ⟨_, same, kind⟩ := busy port member
  rw [answer] at same
  cases same
  refine ⟨port, member, error, answer, ?_⟩
  simp only [runDaemon, failed, reservationError, kind]

/-- The daemon reports that no port is available exactly when the first port that is
not in use cannot be bound because its address is not available. -/
theorem runDaemon_noAvailableProxyPort_iff (nonempty : order ≠ [])
    (elsewhere : ∀ port, serve port ≠ .error .noAvailableProxyPort) :
    runDaemon (.ok ()) bind order serve = .error .noAvailableProxyPort ↔
      ∃ port, FirstFree bind order port ∧ NotAvailable bind port := by
  have failing : ∀ error, (reserveListener bind order).outcome = .error error →
      (runDaemon (.ok ()) bind order serve = .error .noAvailableProxyPort ↔
        error.kind = .addrNotAvailable) := by
    intro error failed
    simp only [runDaemon, failed, Except.error.injEq, reservationError_eq_iff]
  constructor
  · intro reported
    rcases exhausted_or_firstFree bind order with all | ⟨port, _, free⟩
    · obtain ⟨_, _, error, _, failed⟩ := @runDaemon_exhausted _ _ serve nonempty all
      rw [failed] at reported
      cases reported
    · have decided := free.outcome
      cases answer : bind port with
      | ok _ =>
        rw [answer] at decided
        simp only [runDaemon, decided, Except.map] at reported
        exact absurd reported (elsewhere port)
      | error error =>
        rw [answer] at decided
        exact ⟨port, free, error, answer, (failing error decided).mp reported⟩
  · rintro ⟨port, free, error, answer, kind⟩
    have decided := free.outcome
    rw [answer] at decided
    exact (failing error decided).mpr kind

/-- **When exhaustion is reported.** The reservation tries each port at most once and
yields the first one in the order that binds, unless an earlier one failed for
another reason than being in use. That startup reports missing ports exactly when
all are in use is true exactly when some port is not in use and the first such port
does not fail with an address that is not available. -/
theorem exhaustion_reported_iff (shuffled : order.Perm proxyPorts)
    (prepared : prepare = .ok ()) (elsewhere : ∀ port, serve port ≠ .error .noAvailableProxyPort) :
    ((reserveListener bind order).tried.Nodup ∧
      (∀ port ∈ (reserveListener bind order).tried, minProxyPort ≤ port ∧ port ≤ maxProxyPort) ∧
      ∀ port, (reserveListener bind order).outcome = .ok port ↔
        FirstFree bind order port ∧ bind port = .ok ()) ∧
    ((runDaemon prepare bind order serve = .error .noAvailableProxyPort ↔
        ∀ port, minProxyPort ≤ port → port ≤ maxProxyPort → InUse bind port) ↔
      ∃ port, FirstFree bind order port ∧ ¬ NotAvailable bind port) := by
  subst prepared
  have tried : (reserveListener bind order).tried <+: order := bindPorts_tried
  have nonempty : order ≠ [] := by
    rintro rfl
    have listed : minProxyPort ∈ proxyPorts := mem_proxyPorts.mpr ⟨by decide, by decide⟩
    have none := shuffled.mem_iff.mpr listed
    cases none
  have inRange : ∀ port, port ∈ order ↔ minProxyPort ≤ port ∧ port ≤ maxProxyPort := by
    intro port
    rw [shuffled.mem_iff, mem_proxyPorts]
  have all : (∀ port, minProxyPort ≤ port → port ≤ maxProxyPort → InUse bind port) ↔
      ∀ port ∈ order, InUse bind port :=
    ⟨fun busy port member => busy port ((inRange port).mp member).1 ((inRange port).mp member).2,
      fun busy port above below => busy port ((inRange port).mpr ⟨above, below⟩)⟩
  refine ⟨⟨?_, ?_, fun port => reserveListener_ok_iff⟩, ?_⟩
  · exact (shuffled.nodup_iff.mpr proxyPorts_nodup).sublist tried.sublist
  · exact fun port member => (inRange port).mp (tried.subset member)
  · rw [runDaemon_noAvailableProxyPort_iff nonempty elsewhere, all]
    rcases exhausted_or_firstFree bind order with busy | ⟨port, member, free⟩
    · have none : ∀ port, ¬ FirstFree bind order port := by
        rintro port ⟨notBusy, earlier, later, rfl, _⟩
        exact notBusy (busy port (List.mem_append_right _ List.mem_cons_self))
      constructor
      · intro reported
        obtain ⟨port, free, _⟩ := reported.mpr busy
        exact absurd free (none port)
      · rintro ⟨port, free, _⟩
        exact absurd free (none port)
    · have free' : ¬ ∀ port ∈ order, InUse bind port := fun busy => free.1 (busy port member)
      have failed : (∃ port, FirstFree bind order port ∧ NotAvailable bind port) ↔
          NotAvailable bind port := by
        constructor
        · rintro ⟨other, first, unavailable⟩
          exact free.notAvailable_iff.mpr (first.notAvailable_iff.mp unavailable)
        · exact fun unavailable => ⟨port, free, unavailable⟩
      rw [failed, iff_false_right free']
      constructor
      · exact fun available => ⟨port, free, available⟩
      · rintro ⟨other, first, available⟩ unavailable
        exact available (first.notAvailable_iff.mpr (free.notAvailable_iff.mp unavailable))

/-- The first port is in use, all others are free. -/
def firstInUse : Binds := fun port =>
  if port = minProxyPort then .error ⟨.addrInUse, "Address already in use (os error 98)"⟩
  else .ok ()

/-- Where the first port is in use, the next one is reserved and nothing is reported. -/
theorem free_port_not_reported :
    (reserveListener firstInUse proxyPorts).outcome = .ok 10001 ∧
    (runDaemon (.ok ()) firstInUse proxyPorts (fun _ => .ok ()) = .error .noAvailableProxyPort ↔
      ∀ port, minProxyPort ≤ port → port ≤ maxProxyPort → InUse firstInUse port) := by
  have binds : firstInUse 10001 = .ok () := rfl
  have busy : InUse firstInUse minProxyPort := ⟨_, rfl, rfl⟩
  have notInUse : ¬ InUse firstInUse 10001 := by
    rintro ⟨error, failed, _⟩
    cases failed
  have available : ¬ NotAvailable firstInUse 10001 := by
    rintro ⟨error, failed, _⟩
    cases failed
  obtain ⟨rest, shape⟩ := proxyPorts_cons
  have free : FirstFree firstInUse proxyPorts 10001 :=
    ⟨notInUse, [minProxyPort], rest, shape, List.forall_mem_singleton.mpr busy⟩
  obtain ⟨⟨_, _, reserved⟩, reported⟩ := @exhaustion_reported_iff firstInUse proxyPorts _
    (fun _ => .ok ()) (List.Perm.refl _) rfl fun _ same => by cases same
  exact ⟨(reserved 10001).mpr ⟨free, binds⟩, reported.mpr ⟨10001, free, available⟩⟩

/-- Every port is in use. -/
def allInUse : Binds := fun _ => .error ⟨.addrInUse, "Address already in use (os error 98)"⟩

/-- With every port in use startup fails with the error of a bind. -/
theorem exhaustion_not_reported :
    runDaemon (.ok ()) allInUse proxyPorts (fun _ => .ok ()) =
        .error (.io .addrInUse "Address already in use (os error 98)") ∧
      ¬ (runDaemon (.ok ()) allInUse proxyPorts (fun _ => .ok ()) = .error .noAvailableProxyPort ↔
        ∀ port, minProxyPort ≤ port → port ≤ maxProxyPort → InUse allInUse port) := by
  have busy : ∀ port, InUse allInUse port := fun port => ⟨_, rfl, rfl⟩
  have nonempty : proxyPorts ≠ [] := by
    obtain ⟨rest, shape⟩ := proxyPorts_cons
    rw [shape]
    exact List.cons_ne_nil _ _
  have failed : runDaemon (.ok ()) allInUse proxyPorts (fun _ => .ok ()) =
      .error (.io .addrInUse "Address already in use (os error 98)") := by
    obtain ⟨_, _, error, answer, failed⟩ :=
      @runDaemon_exhausted allInUse proxyPorts (fun _ => .ok ()) nonempty fun port _ => busy port
    rw [failed, ← Except.error.inj answer]
    rfl
  refine ⟨failed, fun reported => ?_⟩
  have missing := reported.mpr fun port _ _ => busy port
  rw [failed] at missing
  cases missing

end CfFw
