import Discovery.Proofs.Service.AtRest
import Discovery.Proofs.Time.Advance
/-!
# Maintenance in the course of time

How many passes have been made depends on the time that has gone by, not on how it has. Nothing that is held was expired at
the last pass, and there has been one since the interval began that the time is in now, so no entry outlives its deadline by
a whole interval. When maintenance is cancelled it is over; when only the worker ends it goes on without effect.
-/
namespace Discovery

open Time (Instant Span)

/-- What maintenance goes through: time goes on by so many milliseconds, up to the setting, maintenance is cancelled, or the
service is shut down. -/
inductive Occasion where
  | advance (millis : Nat) (setting : Setting)
  | cancel
  | shutdown (setting : Setting)

/-- A service under maintenance. -/
structure Upkeep (δ : Type) where
  service : Service δ
  maintenance : Maintenance
  /-- The number of passes that have been made. -/
  passes : Nat

variable {δ : Type} [Device δ]

def Service.tellAll (service : Service δ) (setting : Setting) (sightings : List Sighting) : Service δ :=
  sightings.foldl (fun service sighting => (service.tell setting (.sighting sighting)).service) service

namespace Upkeep

def held (upkeep : Upkeep δ) : List Record := upkeep.service.worker.catalogue.all

/-- Start maintenance of a service. The first pass is due at once. -/
def start (service : Service δ) (setting : Setting) (seconds : Nat) : Upkeep δ :=
  let maintenance := Maintenance.start seconds
  let done := service.cleanUps setting maintenance.due
  ⟨done.service, maintenance, done.result⟩

def meet (upkeep : Upkeep δ) : Occasion → Upkeep δ
  | .advance millis setting =>
    let (maintenance, done) := upkeep.service.maintain upkeep.maintenance setting millis
    ⟨done.service, maintenance, upkeep.passes + done.result⟩
  | .cancel => { upkeep with maintenance := upkeep.maintenance.cancel }
  | .shutdown setting => { upkeep with service := (upkeep.service.shutdown setting).service }

def run (upkeep : Upkeep δ) (occasions : List Occasion) : Upkeep δ := occasions.foldl meet upkeep

@[simp] theorem run_nil (upkeep : Upkeep δ) : upkeep.run [] = upkeep := rfl

@[simp] theorem run_cons (upkeep : Upkeep δ) (occasion : Occasion) (rest : List Occasion) :
    upkeep.run (occasion :: rest) = (upkeep.meet occasion).run rest := rfl

theorem run_append (upkeep : Upkeep δ) (earlier later : List Occasion) :
    upkeep.run (earlier ++ later) = (upkeep.run earlier).run later := List.foldl_append

variable {upkeep : Upkeep δ} {opening : Instant} {window : Span}

/-! ## The clock -/

/-- Steps of time, each with the setting that it leads to. -/
abbrev Steps := List (Nat × Setting)

def Steps.elapsed : Steps → Nat
  | [] => 0
  | (millis, _) :: rest => millis + elapsed rest

def Steps.occasions (steps : Steps) : List Occasion := steps.map fun (millis, setting) => .advance millis setting

/-- The clock goes along with the steps: after each it shows the time that has gone by since the opening, of which so many
milliseconds had gone by before the first. -/
def Steps.Timed (opening : Instant) : Nat → Steps → Prop
  | _, [] => True
  | elapsed, (millis, setting) :: rest =>
    opening.add? (.ofMillis (elapsed + millis : Nat)) = some setting.moment.now ∧ Timed opening (elapsed + millis) rest

/-! ## Records that have been told at the opening -/

theorem deadline_of_merges {store next : Store} {incoming : Sighting} {interfaces : Net.Interfaces} {outcome : MergeOutcome}
    (merges : Store.Merges store incoming interfaces window opening next outcome)
    (held : ∀ record ∈ store.records, opening.add? window = some record.expiry) :
    ∀ record ∈ next.records, opening.add? window = some record.expiry := by
  cases merges with
  | refused | unmatched => exact held
  | refreshed _ _ due =>
    intro record member
    rcases mem_renewFirst member with old | new
    · exact held record old
    · rw [due, new]
  | added _ _ due =>
    intro record member
    rcases List.mem_append.mp member with old | new
    · exact held record old
    · rw [List.mem_singleton.mp new, due]
  | removed => exact fun record member => held record (List.mem_of_mem_filter member)

/-- A service at rest that holds nothing but records with this deadline. -/
structure Stocked (opening : Instant) (window : Span) (service : Service δ) : Prop where
  rest : service.worker.AtRest
  unjoined : service.joined = false
  lifetime : service.worker.catalogue.window = window
  deadline : ∀ record ∈ service.worker.catalogue.all, opening.add? window = some record.expiry

theorem stocked_tellAll {setting : Setting} {service : Service δ} {sightings : List Sighting}
    (stocked : Stocked setting.moment.now window service)
    (fits : ∀ sighting ∈ sightings, sighting.category ≠ .unknown → sighting.live = true →
      setting.moment.interfaces.isLocal sighting.address = false → (setting.moment.now.add? window).isSome = true) :
    Stocked setting.moment.now window (service.tellAll setting sightings) := by
  induction sightings generalizing service with
  | nil => exact stocked
  | cons sighting rest ih =>
    refine ih ?_ fun other member => fits other (List.mem_cons_of_mem _ member)
    obtain ⟨rest, unjoined, lifetime, deadline⟩ := stocked
    -- The worker would not survive a deadline that is not representable, and would not be at rest.
    have handled : ∃ step, service.worker.catalogue.handle setting.moment.reading (.sighting sighting) = .ok step := by
      refine Catalogue.exists_sight rest.complete fun concrete distant live => ?_
      rw [lifetime]
      exact fits sighting List.mem_cons_self concrete live distant
    obtain ⟨step, served⟩ := handled
    obtain ⟨_, still, joined, same⟩ := Service.tell_of_rest rest served (Worker.scans_of_sighting served)
    refine ⟨still, joined.trans unjoined, ?_, ?_⟩
    · rw [same]
      exact (Catalogue.pointwise_perform rest.complete _).window.trans lifetime
    · rw [same]
      refine Catalogue.forall_all_perform rest.complete _ (fun store _ held => ?_) deadline
      rw [lifetime]
      exact Store.after_sighting_cases (motive := fun next => ∀ record ∈ next.records, _) held
        fun merges => deadline_of_merges merges held

/-- A service that has been told of these sightings since its start. -/
def told (window : Span) (dispatcher : Dispatcher δ) (setting : Setting) (sightings : List Sighting) : Service δ :=
  (Service.start (.empty window) dispatcher setting.responder).service.tellAll setting sightings

theorem stocked_told {setting : Setting} {sightings : List Sighting} (dispatcher : Dispatcher δ)
    (fits : ∀ sighting ∈ sightings, sighting.category ≠ .unknown → sighting.live = true →
      setting.moment.interfaces.isLocal sighting.address = false → (setting.moment.now.add? window).isSome = true) :
    Stocked setting.moment.now window (told window dispatcher setting sightings) := by
  have fresh : Stocked setting.moment.now window (Service.start (.empty window) dispatcher setting.responder).service :=
    ⟨Service.atRest_start window dispatcher setting.responder, rfl, rfl, fun _ held => absurd held List.not_mem_nil⟩
  exact stocked_tellAll fresh fits

/-! ## Passes in time -/

/-- All passes that have been due have been made. What is held has not expired at the last one, which was in the interval
that the time is in now. -/
structure Paced (opening : Instant) (window : Span) (upkeep : Upkeep δ) : Prop where
  stocked : Stocked opening window upkeep.service
  uncancelled : upkeep.maintenance.cancelled = false
  positive : 0 < upkeep.maintenance.interval
  passes : upkeep.passes = upkeep.maintenance.due
  kept : ∃ latest ≤ upkeep.maintenance.elapsed,
    latest / upkeep.maintenance.interval = upkeep.maintenance.elapsed / upkeep.maintenance.interval ∧
      (upkeep.held ≠ [] → (Span.ofMillis latest).nanos ≤ window.nanos)

theorem stocked_cleanUps {service : Service δ} (stocked : Stocked opening window service) (setting : Setting) (passes : Nat) :
    Stocked opening window (service.cleanUps setting passes).service := by
  obtain ⟨_, rest, joined, lifetime, all⟩ := Service.cleanUps_of_rest stocked.rest setting passes
  refine ⟨rest, joined.trans stocked.unjoined, lifetime.trans stocked.lifetime, fun record member => ?_⟩
  rw [all] at member
  split at member
  · exact stocked.deadline record member
  · exact stocked.deadline record (List.mem_of_mem_filter member)

theorem expired_of_cleanUps {service : Service δ} (rest : service.worker.AtRest) (setting : Setting) (passes : Nat)
    {record : Record} (held : record ∈ service.worker.catalogue.all)
    (gone : record ∉ (service.cleanUps setting passes).service.worker.catalogue.all) :
    record.expiry.before setting.moment.now = true := by
  obtain ⟨_, _, _, _, all⟩ := Service.cleanUps_of_rest rest setting passes
  rw [all] at gone
  split at gone
  · exact absurd held gone
  · by_contra alive
    exact gone (List.mem_filter.mpr ⟨held, by simpa [Record.expiredAt] using alive⟩)

theorem span_ofMillis_nonneg (millis : Nat) : 0 ≤ (Span.ofMillis millis).nanos := by
  simp only [Span.ofMillis]
  omega

theorem early_of_cleanUps {service : Service δ} (stocked : Stocked opening window service) (forward : 0 ≤ window.nanos)
    {setting : Setting} {passes millis : Nat} (made : passes ≠ 0)
    (clock : opening.add? (.ofMillis millis) = some setting.moment.now)
    (held : (service.cleanUps setting passes).service.worker.catalogue.all ≠ []) :
    (Span.ofMillis millis).nanos ≤ window.nanos := by
  obtain ⟨_, _, _, _, all⟩ := Service.cleanUps_of_rest stocked.rest setting passes
  rw [all, if_neg made] at held
  obtain ⟨record, member⟩ := List.exists_mem_of_ne_nil _ held
  obtain ⟨present, alive⟩ := List.mem_filter.mp member
  -- All records have the same deadline, so that of one that the pass has left tells about the time of the pass.
  by_contra late
  have expired := (Instant.before_iff forward (span_ofMillis_nonneg millis) (stocked.deadline record present) clock).mpr
    (Int.not_le.mp late)
  simp [Record.expiredAt, expired] at alive

theorem positive_start (seconds : Nat) : 0 < (Maintenance.start seconds).interval := by
  have least : 1 ≤ min (max 1 seconds) Maintenance.longestInterval :=
    Nat.le_min.mpr ⟨Nat.le_max_left 1 seconds, by decide⟩
  simp only [Maintenance.start]
  omega

theorem due_advance {maintenance : Maintenance} (uncancelled : maintenance.cancelled = false) (millis : Nat) :
    maintenance.due + (maintenance.advance millis).2 = (maintenance.advance millis).1.due := by
  have later : maintenance.elapsed / maintenance.interval ≤ (maintenance.elapsed + millis) / maintenance.interval :=
    Nat.div_le_div_right (Nat.le_add_right _ _)
  simp only [Maintenance.advance, uncancelled, Bool.false_eq_true, if_false, Maintenance.due]
  omega

theorem paced_start {setting : Setting} {service : Service δ} (stocked : Stocked setting.moment.now window service)
    (forward : 0 ≤ window.nanos) (seconds : Nat) : Paced setting.moment.now window (start service setting seconds) := by
  refine ⟨stocked_cleanUps stocked setting _, rfl, positive_start seconds, ?_, 0, Nat.le_refl 0, rfl, ?_⟩
  · exact (Service.cleanUps_of_rest stocked.rest setting _).1
  · intro _
    exact forward

theorem paced_advance (paced : Paced opening window upkeep) (forward : 0 ≤ window.nanos) {millis : Nat} {setting : Setting}
    (clock : opening.add? (.ofMillis (upkeep.maintenance.elapsed + millis : Nat)) = some setting.moment.now) :
    Paced opening window (upkeep.meet (.advance millis setting)) := by
  obtain ⟨stocked, uncancelled, positive, passes, latest, early, same, kept⟩ := paced
  let due := (upkeep.maintenance.advance millis).2
  have total : upkeep.maintenance.due + due = 1 + (upkeep.maintenance.elapsed + millis) / upkeep.maintenance.interval :=
    due_advance uncancelled millis
  have made : (upkeep.service.cleanUps setting due).result = due := (Service.cleanUps_of_rest stocked.rest setting due).1
  refine ⟨stocked_cleanUps stocked setting due, uncancelled, positive, ?_, ?_⟩
  · show upkeep.passes + (upkeep.service.cleanUps setting due).result = _
    rw [made, passes, total]
    rfl
  · by_cases none : due = 0
    · -- Without a pass the last one is still in the same interval as now.
      have unmoved : (upkeep.service.cleanUps setting due).service = upkeep.service := by rw [none]; rfl
      refine ⟨latest, Nat.le_add_right_of_le early, same.trans ?_, fun held => kept ?_⟩
      · show _ = (upkeep.maintenance.elapsed + millis) / upkeep.maintenance.interval
        rw [none, Maintenance.due] at total
        omega
      · have all : (upkeep.meet (.advance millis setting)).held = upkeep.held :=
          congrArg (fun service : Service δ => service.worker.catalogue.all) unmoved
        exact all ▸ held
    · exact ⟨upkeep.maintenance.elapsed + millis, Nat.le_refl _, rfl, early_of_cleanUps stocked forward none clock⟩

omit [Device δ] in
/-- No record is held that is a whole interval or more past its deadline. -/
theorem Paced.fresh (paced : Paced opening window upkeep) (forward : 0 ≤ window.nanos) {now due : Instant}
    (clock : opening.add? (.ofMillis upkeep.maintenance.elapsed) = some now) {record : Record} (held : record ∈ upkeep.held)
    (late : record.expiry.add? (.ofMillis upkeep.maintenance.interval) = some due) : now.before due = true := by
  obtain ⟨stocked, _, positive, _, latest, early, same, kept⟩ := paced
  have onward := span_ofMillis_nonneg upkeep.maintenance.interval
  rw [Instant.add?_add? forward onward (stocked.deadline record held)] at late
  refine (Instant.before_iff (span_ofMillis_nonneg _) (Int.add_nonneg forward onward) clock late).mpr ?_
  -- Less than an interval has gone by since the last pass.
  have recent : upkeep.maintenance.elapsed < latest + upkeep.maintenance.interval := by
    have present := Nat.div_add_mod upkeep.maintenance.elapsed upkeep.maintenance.interval
    have past := Nat.div_add_mod latest upkeep.maintenance.interval
    have part := Nat.mod_lt upkeep.maintenance.elapsed positive
    rw [same] at past
    omega
  have alive := kept (List.ne_nil_of_mem held)
  simp only [Span.ofMillis] at alive ⊢
  omega

/-- However time goes on, what has been made of the passes and what is held is told by the time that has gone by. -/
theorem paced_run (paced : Paced opening window upkeep) (forward : 0 ≤ window.nanos) {steps : Steps}
    (timed : steps.Timed opening upkeep.maintenance.elapsed) :
    Paced opening window (upkeep.run steps.occasions) ∧
      (upkeep.run steps.occasions).maintenance =
        { upkeep.maintenance with elapsed := upkeep.maintenance.elapsed + steps.elapsed } := by
  induction steps generalizing upkeep with
  | nil => exact ⟨paced, rfl⟩
  | cons step rest ih =>
    obtain ⟨millis, setting⟩ := step
    obtain ⟨clock, timed⟩ := timed
    obtain ⟨last, same⟩ := ih (paced_advance paced forward clock) timed
    refine ⟨last, same.trans ?_⟩
    rw [Steps.elapsed, ← Nat.add_assoc]
    rfl

/-! ## The end -/

theorem run_of_cancelled (cancelled : upkeep.maintenance.cancelled = true) (occasions : List Occasion) :
    (upkeep.run occasions).passes = upkeep.passes ∧ (upkeep.run occasions).maintenance.cancelled = true := by
  induction occasions generalizing upkeep with
  | nil => exact ⟨rfl, cancelled⟩
  | cons occasion rest ih =>
    cases occasion with
    | cancel => exact ih rfl
    | shutdown setting => exact ih cancelled
    | advance millis setting =>
      have none : upkeep.maintenance.advance millis =
          ({ upkeep.maintenance with elapsed := upkeep.maintenance.elapsed + millis }, 0) := by
        simp only [Maintenance.advance, cancelled, if_true]
      have still : upkeep.meet (.advance millis setting) =
          { upkeep with maintenance := { upkeep.maintenance with elapsed := upkeep.maintenance.elapsed + millis } } := by
        simp only [meet, Service.maintain, none, Service.cleanUps, Service.stay, Nat.add_zero]
      rw [run_cons, still]
      exact ih cancelled

/-- Without a worker no pass is made, but maintenance goes on. -/
theorem run_of_closed (closed : upkeep.service.Closed) {occasions : List Occasion} (uncancelled : .cancel ∉ occasions) :
    (upkeep.run occasions).passes = upkeep.passes ∧
      (upkeep.run occasions).maintenance.cancelled = upkeep.maintenance.cancelled := by
  induction occasions generalizing upkeep with
  | nil => exact ⟨rfl, rfl⟩
  | cons occasion rest ih =>
    have later : .cancel ∉ rest := fun member => uncancelled (List.mem_cons_of_mem _ member)
    cases occasion with
    | cancel => exact absurd List.mem_cons_self uncancelled
    | shutdown setting => exact ih (Service.closed_of_shutdown (.inr closed) setting) later
    | advance millis setting =>
      obtain ⟨none, same⟩ := Service.cleanUps_of_closed closed setting (upkeep.maintenance.advance millis).2
      have still : upkeep.meet (.advance millis setting) =
          { upkeep with maintenance := (upkeep.maintenance.advance millis).1 } := by
        simp only [meet, Service.maintain, none, same, Nat.add_zero]
      rw [run_cons, still]
      exact ih closed later

/-- Until it is cancelled maintenance goes on, and the worker is at rest or has ended. -/
theorem run_of_uncancelled (ready : upkeep.service.worker.AtRest ∧ upkeep.service.joined = false ∨ upkeep.service.Closed)
    {occasions : List Occasion} (uncancelled : .cancel ∉ occasions) :
    ((upkeep.run occasions).service.worker.AtRest ∧ (upkeep.run occasions).service.joined = false ∨
        (upkeep.run occasions).service.Closed) ∧
      (upkeep.run occasions).maintenance.cancelled = upkeep.maintenance.cancelled := by
  induction occasions generalizing upkeep with
  | nil => exact ⟨ready, rfl⟩
  | cons occasion rest ih =>
    have later : .cancel ∉ rest := fun member => uncancelled (List.mem_cons_of_mem _ member)
    cases occasion with
    | cancel => exact absurd List.mem_cons_self uncancelled
    | shutdown setting => exact ih (.inr (Service.closed_of_shutdown ready setting)) later
    | advance millis setting =>
      refine ih ?_ later
      rcases ready with ⟨rest, unjoined⟩ | closed
      · obtain ⟨_, still, joined, _⟩ := Service.cleanUps_of_rest rest setting (upkeep.maintenance.advance millis).2
        exact .inl ⟨still, joined.trans unjoined⟩
      · have same := (Service.cleanUps_of_closed closed setting (upkeep.maintenance.advance millis).2).2
        refine .inr ?_
        show Service.Closed (upkeep.service.cleanUps setting (upkeep.maintenance.advance millis).2).service
        rw [same]
        exact closed

/-- A service that is told of sightings and then maintained, while time goes on in any steps. An interval of no seconds counts
as one second, and one of more than thirty years as thirty years. The passes are one at the start and one for each interval
that has gone by. After every step no record is held that is a whole interval past its deadline, and no pass takes out a
record that has not expired. After maintenance has been cancelled there are no more passes, and neither are there after the
service has been shut down, though maintenance goes on then. -/
theorem maintenance_keeps_pace (forward : 0 ≤ window.nanos) (dispatcher : Dispatcher δ) (setting : Setting)
    (sightings : List Sighting) (seconds : Nat)
    (fits : ∀ sighting ∈ sightings, sighting.category ≠ .unknown → sighting.live = true →
      setting.moment.interfaces.isLocal sighting.address = false → (setting.moment.now.add? window).isSome = true) :
    let interval := min (max 1 seconds) Maintenance.longestInterval * 1000
    let service := told window dispatcher setting sightings
    let upkeep := start service setting seconds
    (∀ steps : Steps, steps.Timed setting.moment.now 0 →
      let past := upkeep.run steps.occasions
      past.passes = 1 + steps.elapsed / interval ∧ past.maintenance.cancelled = false ∧
      (∀ now, setting.moment.now.add? (.ofMillis steps.elapsed) = some now →
        ∀ record ∈ past.held, ∀ due, record.expiry.add? (.ofMillis interval) = some due → now.before due = true) ∧
      ∀ millis later, ∀ record ∈ past.held, record ∉ (past.meet (.advance millis later)).held →
        record.expiry.before later.moment.now = true) ∧
    (∀ record ∈ service.worker.catalogue.all, record ∉ upkeep.held → record.expiry.before setting.moment.now = true) ∧
    (∀ before after, let last := (upkeep.run before).meet .cancel
      (last.run after).passes = last.passes ∧ (last.run after).maintenance.cancelled = true) ∧
    ∀ before after later, .cancel ∉ before → .cancel ∉ after →
      let last := (upkeep.run before).meet (.shutdown later)
      (last.run after).passes = last.passes ∧ (last.run after).maintenance.cancelled = false := by
  intro interval service upkeep
  have stocked : Stocked setting.moment.now window service := stocked_told dispatcher fits
  have paced : Paced setting.moment.now window upkeep := paced_start stocked forward seconds
  refine ⟨fun steps timed => ?_, ?_, fun before after => ?_, fun before after later uncancelled goes => ?_⟩
  · -- What holds after the steps, which end at any place, is what they have preserved from the start on.
    intro past
    obtain ⟨last, same⟩ := paced_run paced forward timed
    have elapsed : past.maintenance.elapsed = steps.elapsed := (congrArg Maintenance.elapsed same).trans (Nat.zero_add _)
    have length : past.maintenance.interval = interval := congrArg Maintenance.interval same
    refine ⟨?_, last.uncancelled, fun now clock record held due late => ?_, fun millis later record held gone => ?_⟩
    · rw [last.passes, Maintenance.due, elapsed, length]
    · exact last.fresh forward (elapsed ▸ clock) held (length ▸ late)
    · exact expired_of_cleanUps last.stocked.rest later _ held gone
  · intro record held gone
    exact expired_of_cleanUps stocked.rest setting _ held gone
  · exact run_of_cancelled rfl after
  · -- The worker may have ended before, as more than one shutdown may come.
    have ready := run_of_uncancelled (.inl ⟨paced.stocked.rest, paced.stocked.unjoined⟩) uncancelled
    have closed : ((upkeep.run before).meet (.shutdown later)).service.Closed := Service.closed_of_shutdown ready.1 later
    obtain ⟨passes, cancelled⟩ := run_of_closed closed goes
    exact ⟨passes, cancelled.trans (ready.2.trans paced.uncancelled)⟩

/-- At this second, in a host without interfaces and ports. -/
def alone (second : Int) : Setting where
  moment := ⟨(Instant.ofParts? second 0).getD .epoch, .readable []⟩
  host := ⟨.listed [], fun _ => .error "absent", fun _ => .ok ()⟩
  responder := fun _ => .ok ()

def board : Sighting := ⟨.wled, "10.0.0.5", 80, "attic", true⟩

/-- A service that has been told of the board at this second, and of nothing else. -/
def toldOfBoard (second : Int) : Service Backend :=
  told (.ofSeconds 30) ⟨Backend.registry, .null, .unused⟩ (alone second) [board]

/-- A board that is not heard of again is held through the pass at its deadline, and taken out by the next one. -/
theorem maintenance_keeps_pace_board :
    let upkeep := start (toldOfBoard 0) (alone 0) 10
    let late : Steps := [(25000, alone 25), (5000, alone 30)]
    let after : Steps := [(25000, alone 25), (5000, alone 30), (10000, alone 40)]
    let record : Record := { board with expiry := (alone 30).moment.now }
    after.Timed (alone 0).moment.now 0 ∧
      (upkeep.run late.occasions).passes = 4 ∧ record ∈ (upkeep.run late.occasions).held ∧
      (upkeep.run after.occasions).passes = 5 ∧ record ∉ (upkeep.run after.occasions).held := by
  intro upkeep late after record
  have at25 : (alone 0).moment.now.add? (.ofMillis (0 + 25000 : Nat)) = some (alone 25).moment.now := by decide +kernel
  have at30 : (alone 0).moment.now.add? (.ofMillis (0 + 25000 + 5000 : Nat)) = some (alone 30).moment.now := by
    decide +kernel
  have at40 : (alone 0).moment.now.add? (.ofMillis (0 + 25000 + 5000 + 10000 : Nat)) = some (alone 40).moment.now := by
    decide +kernel
  have timed : after.Timed (alone 0).moment.now 0 := ⟨at25, at30, at40, trivial⟩
  obtain ⟨known, first, -⟩ := maintenance_keeps_pace (by decide : 0 ≤ (Span.ofSeconds 30).nanos)
    ⟨Backend.registry, .null, .unused⟩ (alone 0) [board] 10 (fun _ _ _ _ _ => by decide +kernel)
  have present : record ∈ (toldOfBoard 0).worker.catalogue.all := by
    have rest := Service.atRest_start (.ofSeconds 30) (⟨Backend.registry, .null, .unused⟩ : Dispatcher Backend)
      (alone 0).responder
    have handled : ∃ step, (Catalogue.empty (.ofSeconds 30)).handle (alone 0).moment.reading (.sighting board) = .ok step :=
      Catalogue.exists_sight rest.complete fun _ _ _ => by decide +kernel
    obtain ⟨step, served⟩ := handled
    have told := (Service.tell_of_rest rest served (Worker.scans_of_sighting served)).2.2.2
    have listed : record ∈ ((Catalogue.empty (.ofSeconds 30)).perform
        (.request (.sighting board) (alone 0).moment.reading)).catalogue.all := by decide +kernel
    exact told ▸ listed
  -- What goes has expired, and the board has not by its deadline.
  have stays {now : Instant} {held : List Record} (living : record.expiry.before now ≠ true)
      (goes : record ∉ held → record.expiry.before now = true) : record ∈ held :=
    Classical.not_not.mp (mt goes living)
  have held := stays (by decide +kernel) (first record present)
  have held := stays (by decide +kernel) ((known [] trivial).2.2.2 25000 (alone 25) record held)
  have held := stays (by decide +kernel) ((known [(25000, alone 25)] ⟨at25, trivial⟩).2.2.2 5000 (alone 30) record held)
  refine ⟨timed, (known late ⟨at25, at30, trivial⟩).1.trans ?_, held, (known after timed).1.trans ?_, fun held => ?_⟩
  · simp [late, Steps.elapsed, Maintenance.longestInterval]
  · simp [after, Steps.elapsed, Maintenance.longestInterval]
  · have due : record.expiry.add? (.ofMillis (min (max 1 10) Maintenance.longestInterval * 1000 : Nat)) =
        some (alone 40).moment.now := by decide +kernel
    have early := (known after timed).2.2.1 (alone 40).moment.now at40 record held (alone 40).moment.now due
    exact absurd early (by decide +kernel)

/-- Thirty years and a second count as thirty years. A board whose deadline is not representable ends the worker, and there
is no pass at all. -/
theorem passes_out_of_pace :
    let long := (start (toldOfBoard 0) (alone 0) (Maintenance.longestInterval + 1)).meet
      (.advance (Maintenance.longestInterval * 1000) (alone Maintenance.longestInterval))
    long.passes ≠ 1 + Maintenance.longestInterval * 1000 / (max 1 (Maintenance.longestInterval + 1) * 1000) ∧
    (start (toldOfBoard Time.latest) (alone Time.latest) 10).passes ≠ 1 + 0 / (max 1 10 * 1000) := by
  constructor
  · have stocked : Stocked (alone 0).moment.now (.ofSeconds 30) (toldOfBoard 0) :=
      stocked_told _ fun _ _ _ _ _ => by decide +kernel
    have clock : (alone 0).moment.now.add? (.ofMillis (0 + Maintenance.longestInterval * 1000 : Nat)) =
        some (alone Maintenance.longestInterval).moment.now := by decide +kernel
    have paced := paced_advance (paced_start stocked (by decide) (Maintenance.longestInterval + 1)) (by decide) clock
    rw [paced.passes]
    decide +kernel
  · have rest := Service.atRest_start (.ofSeconds 30) (⟨Backend.registry, .null, .unused⟩ : Dispatcher Backend)
      (alone Time.latest).responder
    have closed : (toldOfBoard Time.latest).Closed := Service.closed_of_overflow rest (by rfl)
    rw [start, (Service.cleanUps_of_closed closed _ _).1]
    decide

end Upkeep

end Discovery
