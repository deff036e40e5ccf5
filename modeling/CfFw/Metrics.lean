import CfFw.Error
import CfFw.Transition
import Mathlib.Algebra.BigOperators.Group.List.Basic
import Mathlib.Algebra.Order.Field.Rat
import Mathlib.Tactic.FieldSimp
import Mathlib.Tactic.Ring

/-! Byte accounting, from `metrics.rs` and `proxy/mod.rs::counted_body`: tasks add
to two counters while one sampler reads them, one counter after the other. Rates
are exact rationals here, in place of the `f64` of the source. -/
namespace CfFw
open Transition

/-- `u64::MAX`. -/
def maxU64 : Nat := 18446744073709551615

/-- `u64::saturating_add`. -/
def saturatingAdd (current bytes : UInt64) : UInt64 :=
  UInt64.ofNat (min maxU64 (current.toNat + bytes.toNat))

/-- `u64::saturating_sub`. -/
def saturatingSub (current bytes : UInt64) : UInt64 := UInt64.ofNat (current.toNat - bytes.toNat)

/-- `metrics.rs::RouteMetrics`. -/
structure RouteMetrics where
  uploadedBytes : UInt64
  downloadedBytes : UInt64
  deriving DecidableEq

/-- `metrics.rs::ByteTotals`. -/
structure ByteTotals where
  uploadedBytes : UInt64
  downloadedBytes : UInt64
  deriving DecidableEq

/-- `metrics.rs::MetricsSnapshot`. -/
structure MetricsSnapshot where
  uploadedBytes : UInt64
  downloadedBytes : UInt64
  uploadBytesPerSecond : ℚ
  downloadBytesPerSecond : ℚ
  deriving DecidableEq

/-- `RouteMetrics::new`. -/
def RouteMetrics.new : RouteMetrics := ⟨0, 0⟩

/-- `RouteMetrics::record_upload`. -/
def RouteMetrics.recordUpload (metrics : RouteMetrics) (bytes : UInt64) : RouteMetrics :=
  { metrics with uploadedBytes := saturatingAdd metrics.uploadedBytes bytes }

/-- `RouteMetrics::record_download`. -/
def RouteMetrics.recordDownload (metrics : RouteMetrics) (bytes : UInt64) : RouteMetrics :=
  { metrics with downloadedBytes := saturatingAdd metrics.downloadedBytes bytes }

/-- `metrics.rs::MetricsSampler`. -/
structure MetricsSampler where
  sampledAt : Instant
  totals : ByteTotals
  deriving DecidableEq

/-- `Duration::as_secs_f64`, exactly. -/
def seconds (elapsed : Instant) : ℚ := elapsed / 1000000000

/-- `metrics.rs::rate`. -/
def rate (delta : UInt64) (elapsedSeconds : ℚ) : ℚ :=
  if 0 < elapsedSeconds then delta.toNat / elapsedSeconds else 0

/-- `MetricsSampler::sample_at`, once the totals are read. -/
def MetricsSampler.sampleAt (sampler : MetricsSampler) (totals : ByteTotals)
    (sampledAt : Instant) : MetricsSnapshot × MetricsSampler :=
  let elapsedSeconds := seconds (sampledAt - sampler.sampledAt)
  let uploadedDelta := saturatingSub totals.uploadedBytes sampler.totals.uploadedBytes
  let downloadedDelta := saturatingSub totals.downloadedBytes sampler.totals.downloadedBytes
  ({ uploadedBytes := totals.uploadedBytes
     downloadedBytes := totals.downloadedBytes
     uploadBytesPerSecond := rate uploadedDelta elapsedSeconds
     downloadBytesPerSecond := rate downloadedDelta elapsedSeconds },
    ⟨sampledAt, totals⟩)

/-! ### Recording -/

/-- `proxy/mod.rs::Direction`. -/
inductive Direction where
  | upload
  | download
  deriving DecidableEq

/-- The counter of a direction. -/
def RouteMetrics.total (metrics : RouteMetrics) : Direction → UInt64
  | .upload => metrics.uploadedBytes
  | .download => metrics.downloadedBytes

def ByteTotals.total (totals : ByteTotals) : Direction → UInt64
  | .upload => totals.uploadedBytes
  | .download => totals.downloadedBytes

def MetricsSnapshot.total (snapshot : MetricsSnapshot) : Direction → UInt64
  | .upload => snapshot.uploadedBytes
  | .download => snapshot.downloadedBytes

def MetricsSnapshot.bytesPerSecond (snapshot : MetricsSnapshot) : Direction → ℚ
  | .upload => snapshot.uploadBytesPerSecond
  | .download => snapshot.downloadBytesPerSecond

def RouteMetrics.record (metrics : RouteMetrics) (bytes : UInt64) : Direction → RouteMetrics
  | .upload => metrics.recordUpload bytes
  | .download => metrics.recordDownload bytes

/-- `http_body::Frame`. -/
inductive BodyFrame where
  | data (bytes : List UInt8)
  | trailers
  deriving DecidableEq

/-- The closure of `counted_body`: it counts data frames and changes no frame. -/
def countedFrame (direction : Direction) (frame : BodyFrame) (metrics : RouteMetrics) :
    BodyFrame × RouteMetrics :=
  match frame with
  | .data bytes => (frame, metrics.record (UInt64.ofNat bytes.length) direction)
  | .trailers => (frame, metrics)

/-! ### Interleaving -/

/-- Where the task with the sampler is. Both `at` and `sample_at` take the time
first and then load one counter after the other. -/
inductive SamplerTask where
  | absent
  | creating (now : Instant) (uploaded : Option UInt64)
  | idle (sampler : MetricsSampler)
  | sampling (sampler : MetricsSampler) (now : Instant) (uploaded : Option UInt64)
  deriving DecidableEq

/-- The counters and their sampler, with what the sampler has returned so far:
its baseline, and each snapshot after the seconds since the one before. -/
structure Metering where
  metrics : RouteMetrics
  task : SamplerTask
  baseline : ByteTotals
  samples : List (ℚ × MetricsSnapshot)
  deriving DecidableEq

def Metering.start : Metering := ⟨.new, .absent, ⟨0, 0⟩, []⟩

/-- One atomic step of some task: a call that records bytes, a frame of a counted
body, or a step of the sampler's task. -/
inductive MeteringEvent where
  | record (direction : Direction) (bytes : UInt64)
  | frame (direction : Direction) (frame : BodyFrame)
  | create (now : Instant)
  | sample (now : Instant)
  | loadUploaded
  | loadDownloaded
  deriving DecidableEq

def Metering.step (state : Metering) : MeteringEvent → Option Metering
  | .record direction bytes => some { state with metrics := state.metrics.record bytes direction }
  | .frame direction frame =>
    some { state with metrics := (countedFrame direction frame state.metrics).2 }
  | .create now =>
    match state.task with
    | .absent => some { state with task := .creating now none }
    | _ => none
  | .sample now =>
    match state.task with
    | .idle sampler => some { state with task := .sampling sampler now none }
    | _ => none
  | .loadUploaded =>
    match state.task with
    | .creating now none =>
      some { state with task := .creating now (some state.metrics.uploadedBytes) }
    | .sampling sampler now none =>
      some { state with task := .sampling sampler now (some state.metrics.uploadedBytes) }
    | _ => none
  | .loadDownloaded =>
    match state.task with
    | .creating now (some uploaded) =>
      let totals : ByteTotals := ⟨uploaded, state.metrics.downloadedBytes⟩
      some { state with task := .idle ⟨now, totals⟩, baseline := totals }
    | .sampling sampler now (some uploaded) =>
      let totals : ByteTotals := ⟨uploaded, state.metrics.downloadedBytes⟩
      let (snapshot, after) := sampler.sampleAt totals now
      some { state with
        task := .idle after
        samples := state.samples ++ [(seconds (now - sampler.sampledAt), snapshot)] }
    | _ => none

/-- Every sample is taken later than the one before. -/
def LaterSample (state : Metering) (event : MeteringEvent) : Prop :=
  ∀ now sampler, event = .sample now → state.task = .idle sampler → sampler.sampledAt < now

/-- The bytes an event records. -/
def MeteringEvent.recorded (direction : Direction) : MeteringEvent → Nat
  | .record other bytes => if other = direction then bytes.toNat else 0
  | .frame other (.data bytes) => if other = direction then (UInt64.ofNat bytes.length).toNat else 0
  | _ => 0

/-- The bytes recorded in a sequence of events. -/
def recordedBytes (direction : Direction) (events : List MeteringEvent) : Nat :=
  (events.map (MeteringEvent.recorded direction)).sum

/-- The bytes that the rates of the samples account for. -/
def sampledBytes (direction : Direction) (samples : List (ℚ × MetricsSnapshot)) : ℚ :=
  (samples.map fun (elapsed, snapshot) => snapshot.bytesPerSecond direction * elapsed).sum

/-! ### The counters -/

theorem toNat_saturatingAdd (current bytes : UInt64) :
    (saturatingAdd current bytes).toNat = min maxU64 (current.toNat + bytes.toNat) := by
  rw [saturatingAdd, maxU64]
  exact UInt64.toNat_ofNat_of_lt (by rw [UInt64.size]; omega)

private theorem toNat_saturatingSub (current bytes : UInt64) :
    (saturatingSub current bytes).toNat = current.toNat - bytes.toNat :=
  UInt64.toNat_ofNat_of_lt (lt_of_le_of_lt (Nat.sub_le _ _) current.toNat_lt)

theorem total_record (metrics : RouteMetrics) (bytes : UInt64) (recorded direction : Direction) :
    (metrics.record bytes recorded).total direction =
      if recorded = direction then saturatingAdd (metrics.total direction) bytes
      else metrics.total direction := by
  cases recorded <;> cases direction <;> rfl

/-- What one event does to the counters: it adds what it records. -/
theorem step_total {state after : Metering} {event : MeteringEvent}
    (taken : state.step event = some after) (direction : Direction) :
    (after.metrics.total direction).toNat =
      min maxU64 ((state.metrics.total direction).toNat + event.recorded direction) := by
  have bounded : (state.metrics.total direction).toNat ≤ maxU64 :=
    Nat.le_of_lt_succ (state.metrics.total direction).toNat_lt
  have unchanged : after.metrics = state.metrics → event.recorded direction = 0 →
      (after.metrics.total direction).toNat =
        min maxU64 ((state.metrics.total direction).toNat + event.recorded direction) := by
    intro same none
    rw [same, none, Nat.add_zero, min_eq_right bounded]
  have added : ∀ (recorded : Direction) (bytes : UInt64),
      ((state.metrics.record bytes recorded).total direction).toNat =
        min maxU64 ((state.metrics.total direction).toNat +
          if recorded = direction then bytes.toNat else 0) := by
    intro recorded bytes
    rw [total_record]
    split
    · exact toNat_saturatingAdd _ _
    · rw [Nat.add_zero, min_eq_right bounded]
  cases event with
  | record recorded bytes =>
    cases taken
    exact added recorded bytes
  | frame recorded frame =>
    cases taken
    cases frame with
    | data bytes => exact added recorded _
    | trailers => exact unchanged rfl rfl
  | create | sample | loadUploaded | loadDownloaded =>
    refine unchanged ?_ rfl
    simp only [Metering.step] at taken
    split at taken <;> cases taken <;> rfl

private theorem total_le_step {state after : Metering} {event : MeteringEvent}
    (taken : state.step event = some after) (direction : Direction) :
    (state.metrics.total direction).toNat ≤ (after.metrics.total direction).toNat := by
  have bounded : (state.metrics.total direction).toNat ≤ maxU64 :=
    Nat.le_of_lt_succ (state.metrics.total direction).toNat_lt
  rw [step_total taken, Nat.le_min]
  exact ⟨bounded, Nat.le_add_right _ _⟩

/-- Whatever the order, a counter holds the sum of what was recorded, or the
largest number when that is less. -/
theorem run_total {events : List MeteringEvent} {state : Metering}
    {allowed : Metering → MeteringEvent → Prop}
    (run : Run Metering.step allowed .start events state) (direction : Direction) :
    (state.metrics.total direction).toNat = min maxU64 (recordedBytes direction events) := by
  refine run.historyInvariant (fun events state => (state.metrics.total direction).toNat =
    min maxU64 (recordedBytes direction events)) ?_ fun past state event after holds _ taken => ?_
  · cases direction <;> rfl
  · have sum : recordedBytes direction (past ++ [event]) =
        recordedBytes direction past + event.recorded direction := by
      simp [recordedBytes]
    rw [step_total taken, holds, sum]
    omega

private theorem run_total_le {events : List MeteringEvent} {state later : Metering}
    {allowed : Metering → MeteringEvent → Prop} (run : Run Metering.step allowed state events later)
    (direction : Direction) :
    (state.metrics.total direction).toNat ≤ (later.metrics.total direction).toNat :=
  run.invariant (fun reached => (state.metrics.total direction).toNat ≤
    (reached.metrics.total direction).toNat) (Nat.le_refl _)
    fun _ _ _ holds _ taken => Nat.le_trans holds (total_le_step taken direction)

/-! ### The samples -/

/-- The total of the last sample, or of the baseline before the first. -/
def Metering.lastTotal (state : Metering) (direction : Direction) : UInt64 :=
  match state.samples.getLast? with
  | some (_, snapshot) => snapshot.total direction
  | none => state.baseline.total direction

/-- What a loaded upload total is, between what it was before and what it is now. -/
def Loaded (before now : UInt64) (uploaded : Option UInt64) : Prop :=
  ∀ loaded, uploaded = some loaded → before.toNat ≤ loaded.toNat ∧ loaded.toNat ≤ now.toNat

/-- The sampler holds the totals it returned last, and none ahead of the
counters. -/
def Metering.Current (state : Metering) (sampler : MetricsSampler) : Prop :=
  ∀ direction, sampler.totals.total direction = state.lastTotal direction ∧
    (sampler.totals.total direction).toNat ≤ (state.metrics.total direction).toNat

/-- Where the sampler's task is and what follows for the samples. -/
def Metering.Ready (state : Metering) : Prop :=
  match state.task with
  | .absent => state.samples = []
  | .creating _ uploaded => state.samples = [] ∧ Loaded 0 state.metrics.uploadedBytes uploaded
  | .idle sampler => state.Current sampler
  | .sampling sampler now uploaded => state.Current sampler ∧ sampler.sampledAt < now ∧
    Loaded sampler.totals.uploadedBytes state.metrics.uploadedBytes uploaded

/-- The samples account for everything between the baseline and the last of
them. -/
structure Metering.Accounted (state : Metering) : Prop where
  sum (direction : Direction) : sampledBytes direction state.samples =
    (state.lastTotal direction).toNat - (state.baseline.total direction).toNat
  ready : state.Ready

/-- A rate times its time is the difference it was computed from. -/
theorem rate_mul {delta : UInt64} {elapsed : ℚ} (positive : 0 < elapsed) :
    rate delta elapsed * elapsed = delta.toNat := by
  rw [rate, if_pos positive]
  exact div_mul_cancel₀ _ positive.ne'

private theorem seconds_pos {before now : Instant} (later : before < now) :
    0 < seconds (now - before) := by
  have positive : (0 : ℚ) < ((now - before : Nat) : ℚ) := by
    exact_mod_cast Nat.sub_pos_of_lt later
  exact div_pos positive (by norm_num)

/-- One sample accounts for the bytes since the last one. -/
theorem sampleAt_bytes {sampler : MetricsSampler} {totals : ByteTotals} {now : Instant}
    (later : sampler.sampledAt < now) (direction : Direction)
    (grown : (sampler.totals.total direction).toNat ≤ (totals.total direction).toNat) :
    ((sampler.sampleAt totals now).1.bytesPerSecond direction *
        seconds (now - sampler.sampledAt) : ℚ) =
      (totals.total direction).toNat - (sampler.totals.total direction).toNat := by
  have positive := seconds_pos later
  have difference : (((saturatingSub (totals.total direction)
      (sampler.totals.total direction)).toNat : Nat) : ℚ) =
      (totals.total direction).toNat - (sampler.totals.total direction).toNat := by
    rw [toNat_saturatingSub, Nat.cast_sub grown]
  cases direction with
  | upload => exact (rate_mul positive).trans difference
  | download => exact (rate_mul positive).trans difference

/-- Recording more keeps the account. -/
theorem Metering.Accounted.recorded {state : Metering} (accounted : state.Accounted)
    {metrics : RouteMetrics} (grown : ∀ direction, (state.metrics.total direction).toNat ≤
      (metrics.total direction).toNat) : Metering.Accounted { state with metrics } where
  sum := accounted.sum
  ready := by
    have ready := accounted.ready
    have current : ∀ sampler, state.Current sampler →
        Metering.Current { state with metrics } sampler := fun sampler holds direction =>
      ⟨(holds direction).1, Nat.le_trans (holds direction).2 (grown direction)⟩
    have loaded : ∀ before uploaded, Loaded before state.metrics.uploadedBytes uploaded →
        Loaded before metrics.uploadedBytes uploaded := fun _ _ holds value same =>
      ⟨(holds value same).1, Nat.le_trans (holds value same).2 (grown .upload)⟩
    unfold Metering.Ready at ready ⊢
    cases task : state.task with
    | absent =>
      simp only [task] at ready ⊢
      exact ready
    | creating now uploaded =>
      simp only [task] at ready ⊢
      exact ⟨ready.1, loaded _ _ ready.2⟩
    | idle sampler =>
      simp only [task] at ready ⊢
      exact current _ ready
    | sampling sampler now uploaded =>
      simp only [task] at ready ⊢
      exact ⟨current _ ready.1, ready.2.1, loaded _ _ ready.2.2⟩

/-- The sampler's baseline starts an empty account. -/
theorem Metering.Accounted.created {state : Metering} (accounted : state.Accounted)
    {now : Instant} {uploaded : UInt64} (task : state.task = .creating now (some uploaded))
    {totals : ByteTotals} (read : totals = ⟨uploaded, state.metrics.downloadedBytes⟩) :
    Metering.Accounted { state with task := .idle ⟨now, totals⟩, baseline := totals } := by
  have ready := accounted.ready
  simp only [Ready, task] at ready
  obtain ⟨none, loaded⟩ := ready
  subst read
  constructor
  · intro direction
    simp [lastTotal, none, sampledBytes]
  · intro direction
    refine ⟨by simp [lastTotal, none], ?_⟩
    cases direction with
    | upload => exact (loaded uploaded rfl).2
    | download => exact Nat.le_refl _

/-- A completed sample adds the bytes since the last one to the account. -/
theorem Metering.Accounted.sampled {state : Metering} (accounted : state.Accounted)
    {sampler : MetricsSampler} {now : Instant} {uploaded : UInt64}
    (task : state.task = .sampling sampler now (some uploaded))
    {totals : ByteTotals} (read : totals = ⟨uploaded, state.metrics.downloadedBytes⟩) :
    Metering.Accounted { state with
      task := .idle (sampler.sampleAt totals now).2
      samples := state.samples ++
        [(seconds (now - sampler.sampledAt), (sampler.sampleAt totals now).1)] } := by
  have ready := accounted.ready
  simp only [Ready, task] at ready
  obtain ⟨current, increasing, loaded⟩ := ready
  -- Both loads happened after the last sample, and counters only grow.
  have between : ∀ direction, (sampler.totals.total direction).toNat ≤
      (totals.total direction).toNat ∧
      (totals.total direction).toNat ≤ (state.metrics.total direction).toNat := by
    intro direction
    subst read
    cases direction with
    | upload => exact loaded uploaded rfl
    | download => exact ⟨(current .download).2, Nat.le_refl _⟩
  have last : ∀ direction, (sampler.sampleAt totals now).1.total direction =
      totals.total direction := by
    intro direction
    cases direction <;> rfl
  constructor
  · intro direction
    have before := accounted.sum direction
    have bytes := sampleAt_bytes increasing direction (between direction).1
    simp only [sampledBytes, lastTotal, List.map_append, List.sum_append, List.map_cons,
      List.map_nil, List.sum_singleton, List.getLast?_concat] at before ⊢
    rw [last, bytes, before, (current direction).1]
    simp only [lastTotal]
    ring
  · intro direction
    refine ⟨?_, (between direction).2⟩
    simp only [lastTotal, List.getLast?_concat]
    exact (last direction).symm

/-- Every step of a run with increasing sample times keeps the account. -/
theorem Metering.Accounted.step {state after : Metering} {event : MeteringEvent}
    (accounted : state.Accounted) (later : LaterSample state event)
    (taken : state.step event = some after) : after.Accounted := by
  have grown := total_le_step taken
  cases event with
  | record direction bytes =>
    cases taken
    exact accounted.recorded grown
  | frame direction frame =>
    cases taken
    exact accounted.recorded grown
  | create now =>
    have ready := accounted.ready
    simp only [Metering.step] at taken
    cases task : state.task with
    | absent =>
      simp only [task, Option.some.injEq] at taken
      subst taken
      simp only [Ready, task] at ready
      exact ⟨accounted.sum, ready, nofun⟩
    | creating | idle | sampling => simp [task] at taken
  | sample now =>
    have ready := accounted.ready
    simp only [Metering.step] at taken
    cases task : state.task with
    | idle sampler =>
      simp only [task, Option.some.injEq] at taken
      subst taken
      simp only [Ready, task] at ready
      exact ⟨accounted.sum, ready, later now sampler rfl task, nofun⟩
    | absent | creating | sampling => simp [task] at taken
  | loadUploaded =>
    have ready := accounted.ready
    simp only [Metering.step] at taken
    cases task : state.task with
    | absent | idle => simp [task] at taken
    | creating now uploaded =>
      cases uploaded with
      | some => simp [task] at taken
      | none =>
        simp only [task, Option.some.injEq] at taken
        subst taken
        simp only [Ready, task] at ready
        refine ⟨accounted.sum, ready.1, ?_⟩
        rintro _ ⟨⟩
        exact ⟨Nat.zero_le _, Nat.le_refl _⟩
    | sampling sampler now uploaded =>
      cases uploaded with
      | some => simp [task] at taken
      | none =>
        simp only [task, Option.some.injEq] at taken
        subst taken
        simp only [Ready, task] at ready
        refine ⟨accounted.sum, ready.1, ready.2.1, ?_⟩
        rintro _ ⟨⟩
        exact ⟨(ready.1 .upload).2, Nat.le_refl _⟩
  | loadDownloaded =>
    simp only [Metering.step] at taken
    cases task : state.task with
    | absent | idle => simp [task] at taken
    | creating now uploaded =>
      cases uploaded with
      | none => simp [task] at taken
      | some uploaded =>
        simp only [task, Option.some.injEq] at taken
        subst taken
        exact accounted.created task rfl
    | sampling sampler now uploaded =>
      cases uploaded with
      | none => simp [task] at taken
      | some uploaded =>
        simp only [task, Option.some.injEq] at taken
        subst taken
        exact accounted.sampled task rfl

/-! ### What the samples hold -/

variable {events more past : List MeteringEvent} {event : MeteringEvent} {state after : Metering}
  {direction : Direction} {value : UInt64}

/-- The counter had this value at a moment of the run that is after these events. -/
def HeldAfter (events past : List MeteringEvent) (direction : Direction) (value : UInt64) : Prop :=
  ∃ middle rest state, events = past ++ middle ++ rest ∧
    Run Metering.step LaterSample .start (past ++ middle) state ∧
    state.metrics.total direction = value

theorem HeldAfter.later (held : HeldAfter events past direction value) :
    HeldAfter (events ++ more) past direction value := by
  obtain ⟨middle, rest, state, split, reached, same⟩ := held
  exact ⟨middle, rest ++ more, state, by simp [split], reached, same⟩

private theorem heldAfter_now (run : Run Metering.step LaterSample .start events state)
    (begun : past <+: events) :
    HeldAfter events past direction (state.metrics.total direction) := by
  obtain ⟨middle, rfl⟩ := begun
  exact ⟨middle, [], state, by simp, run, rfl⟩

/-- The baseline was loaded since the sampler began to be made, and what a sample returned
last was loaded since that sample was begun. -/
structure Metering.Sampled (events : List MeteringEvent) (state : Metering) : Prop where
  run : Run Metering.step LaterSample .start events state
  /-- What is loaded already for the sampler, or for the sample, that is being made. -/
  creating : ∀ now uploaded, state.task = .creating now uploaded →
    ∃ past, past ++ [.create now] <+: events ∧
      ∀ value, uploaded = some value → HeldAfter events past .upload value
  sampling : ∀ sampler now uploaded, state.task = .sampling sampler now uploaded →
    ∃ past before, past ++ [.sample now] <+: events ∧
      Run Metering.step LaterSample .start past before ∧ before.samples = state.samples ∧
      ∀ value, uploaded = some value → HeldAfter events past .upload value
  baseline : (∀ now uploaded, state.task ≠ .creating now uploaded) → state.task ≠ .absent →
    ∃ past now, past ++ [.create now] <+: events ∧
      ∀ direction, HeldAfter events past direction (state.baseline.total direction)
  last : ∀ earlier elapsed snapshot, state.samples = earlier ++ [(elapsed, snapshot)] →
    ∃ past now before, past ++ [.sample now] <+: events ∧
      Run Metering.step LaterSample .start past before ∧ before.samples = earlier ∧
      ∀ direction, HeldAfter events past direction (snapshot.total direction)

private theorem sampled_start : Metering.Sampled [] .start where
  run := .nil
  creating _ _ task := by cases task
  sampling _ _ _ task := by cases task
  baseline _ present := absurd rfl present
  last earlier _ _ samples := by simp [Metering.start] at samples

/-- What the baseline was is not changed by what comes later. -/
private theorem Metering.Sampled.baselineLater (sampled : state.Sampled events)
    (made : ∀ now uploaded, state.task ≠ .creating now uploaded) (present : state.task ≠ .absent) :
    ∃ past now, past ++ [.create now] <+: events ++ more ∧
      ∀ direction, HeldAfter (events ++ more) past direction (state.baseline.total direction) := by
  obtain ⟨past, now, begun, loaded⟩ := sampled.baseline made present
  exact ⟨past, now, begun.trans (List.prefix_append _ _), fun direction => (loaded direction).later⟩

/-- Nor is what the last sample returned. -/
private theorem Metering.Sampled.lastLater (sampled : state.Sampled events) {elapsed : ℚ}
    {earlier : List (ℚ × MetricsSnapshot)} {snapshot : MetricsSnapshot}
    (samples : state.samples = earlier ++ [(elapsed, snapshot)]) :
    ∃ past now before, past ++ [.sample now] <+: events ++ more ∧
      Run Metering.step LaterSample .start past before ∧ before.samples = earlier ∧
      ∀ direction, HeldAfter (events ++ more) past direction (snapshot.total direction) := by
  obtain ⟨past, now, before, begun, reached, same, loaded⟩ :=
    sampled.last earlier elapsed snapshot samples
  exact ⟨past, now, before, begun.trans (List.prefix_append _ _), reached, same,
    fun direction => (loaded direction).later⟩

/-- The counters alone change nothing of it. -/
theorem Metering.Sampled.kept (sampled : state.Sampled events)
    (run : Run Metering.step LaterSample .start (events ++ more) after)
    (task : after.task = state.task) (baseline : after.baseline = state.baseline)
    (samples : after.samples = state.samples) : after.Sampled (events ++ more) where
  run := run
  creating now uploaded here := by
    obtain ⟨past, begun, loaded⟩ := sampled.creating now uploaded (task ▸ here)
    exact ⟨past, begun.trans (List.prefix_append _ _), fun value same => (loaded value same).later⟩
  sampling sampler now uploaded here := by
    obtain ⟨past, before, begun, reached, same, loaded⟩ :=
      sampled.sampling sampler now uploaded (task ▸ here)
    exact ⟨past, before, begun.trans (List.prefix_append _ _), reached, by rw [same, samples],
      fun value same => (loaded value same).later⟩
  baseline made present := by
    rw [task] at made present
    rw [baseline]
    exact sampled.baselineLater made present
  last _ _ _ here := sampled.lastLater (samples ▸ here)

/-- A sampler that begins to be made, or a sample that does, begins after all that was. -/
theorem Metering.Sampled.begins (sampled : state.Sampled events)
    (run : Run Metering.step LaterSample .start (events ++ [event]) after)
    (begun : (∃ now, event = .create now ∧ state.task = .absent ∧ after.task = .creating now none) ∨
      ∃ sampler now, event = .sample now ∧ state.task = .idle sampler ∧
        after.task = .sampling sampler now none)
    (baseline : after.baseline = state.baseline) (samples : after.samples = state.samples) :
    after.Sampled (events ++ [event]) where
  run := run
  creating now uploaded here := by
    obtain ⟨_, rfl, -, task⟩ | ⟨_, _, -, -, task⟩ := begun <;> cases task.symm.trans here
    exact ⟨events, List.prefix_refl _, nofun⟩
  sampling sampler now uploaded here := by
    obtain ⟨_, -, -, task⟩ | ⟨_, _, rfl, -, task⟩ := begun <;> cases task.symm.trans here
    exact ⟨events, state, List.prefix_refl _, sampled.run, samples.symm, nofun⟩
  baseline made _present := by
    obtain ⟨now, -, -, task⟩ | ⟨_, _, -, task, -⟩ := begun
    · exact absurd task (made now none)
    · rw [baseline]
      exact sampled.baselineLater (by simp [task]) (by simp [task])
  last _ _ _ here := sampled.lastLater (samples ▸ here)

/-- The upload total is loaded now; the download total that completes it comes later. -/
theorem Metering.Sampled.loadsUploaded (sampled : state.Sampled events)
    (run : Run Metering.step LaterSample .start (events ++ [.loadUploaded]) after)
    (taken : state.step .loadUploaded = some after) :
    after.Sampled (events ++ [.loadUploaded]) where
  run := run
  creating now uploaded here := by
    simp only [Metering.step] at taken
    split at taken <;> cases taken
    case h_1 made task =>
      cases here
      obtain ⟨past, begun, -⟩ := sampled.creating _ _ task
      refine ⟨past, begun.trans (List.prefix_append _ _), ?_⟩
      rintro _ ⟨⟩
      exact (heldAfter_now sampled.run ((List.prefix_append _ _).trans begun)).later
    case h_2 => cases here
  sampling sampler now uploaded here := by
    simp only [Metering.step] at taken
    split at taken <;> cases taken
    case h_1 => cases here
    case h_2 task =>
      cases here
      obtain ⟨past, before, begun, reached, same, -⟩ := sampled.sampling _ _ _ task
      refine ⟨past, before, begun.trans (List.prefix_append _ _), reached, same, ?_⟩
      rintro _ ⟨⟩
      exact (heldAfter_now sampled.run ((List.prefix_append _ _).trans begun)).later
  baseline made _present := by
    simp only [Metering.step] at taken
    split at taken <;> cases taken
    case h_1 => exact absurd rfl (made _ _)
    case h_2 task => exact sampled.baselineLater (by simp [task]) (by simp [task])
  last earlier elapsed snapshot here := by
    have samples : after.samples = state.samples := by
      simp only [Metering.step] at taken
      split at taken <;> cases taken <;> rfl
    exact sampled.lastLater (samples ▸ here)

/-- The download total completes the baseline, or a sample. -/
theorem Metering.Sampled.loadsDownloaded (sampled : state.Sampled events)
    (run : Run Metering.step LaterSample .start (events ++ [.loadDownloaded]) after)
    (taken : state.step .loadDownloaded = some after) :
    after.Sampled (events ++ [.loadDownloaded]) where
  run := run
  creating now uploaded here := by
    simp only [Metering.step] at taken
    split at taken <;> cases taken <;> cases here
  sampling sampler now uploaded here := by
    simp only [Metering.step] at taken
    split at taken <;> cases taken <;> cases here
  baseline _made _present := by
    simp only [Metering.step] at taken
    split at taken <;> cases taken
    case h_1 now uploaded task =>
      obtain ⟨past, begun, loaded⟩ := sampled.creating _ _ task
      refine ⟨past, now, begun.trans (List.prefix_append _ _), fun direction => ?_⟩
      cases direction with
      | upload => exact (loaded _ rfl).later
      | download => exact (heldAfter_now sampled.run ((List.prefix_append _ _).trans begun)).later
    case h_2 task => exact sampled.baselineLater (by simp [task]) (by simp [task])
  last earlier elapsed snapshot here := by
    simp only [Metering.step] at taken
    split at taken <;> cases taken
    case h_1 => exact sampled.lastLater here
    case h_2 sampler now uploaded task =>
      obtain ⟨past, before, begun, reached, same, loaded⟩ := sampled.sampling _ _ _ task
      obtain ⟨rfl, added⟩ := List.append_inj' here rfl
      simp only [List.cons.injEq, Prod.mk.injEq, and_true] at added
      obtain ⟨-, rfl⟩ := added
      refine ⟨past, now, before, begun.trans (List.prefix_append _ _), reached, same,
        fun direction => ?_⟩
      cases direction with
      | upload => exact (loaded _ rfl).later
      | download => exact (heldAfter_now sampled.run ((List.prefix_append _ _).trans begun)).later

theorem Metering.Sampled.step (sampled : state.Sampled events) (later : LaterSample state event)
    (taken : state.step event = some after) : after.Sampled (events ++ [event]) := by
  have run := Run.snoc sampled.run later taken
  cases event with
  | record | frame =>
    cases taken
    exact sampled.kept run rfl rfl rfl
  | create now =>
    simp only [Metering.step] at taken
    split at taken <;> cases taken
    case h_1 task => exact sampled.begins run (.inl ⟨now, rfl, task, rfl⟩) rfl rfl
  | sample now =>
    simp only [Metering.step] at taken
    split at taken <;> cases taken
    case h_1 sampler task => exact sampled.begins run (.inr ⟨sampler, now, rfl, task, rfl⟩) rfl rfl
  | loadUploaded => exact sampled.loadsUploaded run taken
  | loadDownloaded => exact sampled.loadsDownloaded run taken

private theorem run_sampled (run : Run Metering.step LaterSample .start events state) :
    state.Sampled events :=
  run.historyInvariant (fun events state => state.Sampled events) sampled_start
    fun _ _ _ _ holds later taken => holds.step later taken

/-- **Byte accounting is conserved.** However recording and sampling interleave,
each counter holds the sum of what was recorded for it, cut off at the largest
number, and never decreases; and the rates of the samples, each times the
seconds since the sample before, add up to the last sampled total minus the
baseline. The baseline is what the counter held at a moment since the sampler began
to be made, and a sample's total what it held at a moment since that sample was begun. -/
theorem byte_accounting_conserved {events : List MeteringEvent} {state : Metering}
    (run : Run Metering.step LaterSample .start events state) (direction : Direction) :
    (state.metrics.total direction).toNat = min maxU64 (recordedBytes direction events) ∧
    (∀ more later, Run Metering.step LaterSample state more later →
      (state.metrics.total direction).toNat ≤ (later.metrics.total direction).toNat) ∧
    sampledBytes direction state.samples =
      (state.lastTotal direction).toNat - (state.baseline.total direction).toNat ∧
    ((∀ now uploaded, state.task ≠ .creating now uploaded) → state.task ≠ .absent →
      ∃ past now, past ++ [.create now] <+: events ∧
        HeldAfter events past direction (state.baseline.total direction)) ∧
    ∀ earlier elapsed snapshot, state.samples = earlier ++ [(elapsed, snapshot)] →
      ∃ past now before, past ++ [.sample now] <+: events ∧
        Run Metering.step LaterSample .start past before ∧ before.samples = earlier ∧
        HeldAfter events past direction (snapshot.total direction) := by
  have accounted : state.Accounted := by
    refine run.invariant Metering.Accounted ⟨fun direction => ?_, rfl⟩
      fun _ _ _ holds later taken => holds.step later taken
    simp [Metering.start, sampledBytes, Metering.lastTotal]
  have sampled := run_sampled run
  refine ⟨run_total run direction, fun _ _ rest => run_total_le rest direction,
    accounted.sum direction, fun made present => ?_, fun earlier elapsed snapshot samples => ?_⟩
  · obtain ⟨past, now, begun, loaded⟩ := sampled.baseline made present
    exact ⟨past, now, begun, loaded direction⟩
  · obtain ⟨past, now, before, begun, reached, same, loaded⟩ := sampled.last _ _ _ samples
    exact ⟨past, now, before, begun, reached, same, loaded direction⟩

/-- Bytes are recorded while the sampler reads the counters, before its baseline
and between the two loads of a sample. -/
def meteredExchange : List MeteringEvent :=
  [.create 0, .loadUploaded, .record .upload 5, .loadDownloaded,
    .frame .upload (.data [71, 69, 84]), .sample 1500000000, .loadUploaded,
    .record .download 300, .loadDownloaded, .record .upload 900]

def meteredWorld : Metering := (execute Metering.step .start meteredExchange).get (by decide)

def isLaterSample (state : Metering) (event : MeteringEvent) : Bool :=
  match event, state.task with
  | .sample now, .idle sampler => decide (sampler.sampledAt < now)
  | _, _ => true

theorem byte_accounting_of_exchange :
    (meteredWorld.metrics.total .upload).toNat = min maxU64 (recordedBytes .upload meteredExchange) ∧
    (∀ more later, Run Metering.step LaterSample meteredWorld more later →
      (meteredWorld.metrics.total .upload).toNat ≤ (later.metrics.total .upload).toNat) ∧
    sampledBytes .upload meteredWorld.samples =
      (meteredWorld.lastTotal .upload).toNat - (meteredWorld.baseline.total .upload).toNat ∧
    (∃ past now, past ++ [.create now] <+: meteredExchange ∧
      HeldAfter meteredExchange past .upload 0) ∧
    ∃ past now before, past ++ [.sample now] <+: meteredExchange ∧
      Run Metering.step LaterSample .start past before ∧ before.samples = [] ∧
      HeldAfter meteredExchange past .upload 8 := by
  have sound : ∀ state event, isLaterSample state event = true → LaterSample state event := by
    rintro state _ later now sampler rfl task
    simpa [isLaterSample, task] using later
  have run : Run Metering.step LaterSample .start meteredExchange meteredWorld :=
    run_of_executeChecked sound rfl
  obtain ⟨sum, grows, sampled, baseline, last⟩ := byte_accounting_conserved run .upload
  exact ⟨sum, grows, sampled, baseline nofun nofun, last [] _ _ rfl⟩

end CfFw
