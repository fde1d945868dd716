import Discovery.Proofs.Catalogue.Run
import Discovery.Proofs.Dispatcher.Requests
import Mathlib.Data.List.Basic
/-!
# Scans that are due

A query asks for a scan and does not trigger it. What has been asked for since scans were triggered last is pending, each
category once and in the order in which it was asked for first, and it is all that is triggered the next time. Only the four
categories that are scanned under their own name are ever pending, and these are the ones that a dispatcher passes on.
-/
namespace Discovery

open Time (Span)

/-- The categories that are scanned under their own name. -/
def Category.scanned : List Category := [.hyperhdr, .wled, .hue, .serial]

/-- The scans that become due with a request, in the order in which it asks for them. -/
def Request.asks : Request → List Category
  | services category => category.scanTarget.toList
  | scanAll => Category.scanned
  | sighting _ | sessions | everything | scan _ | cleanUpAll => []

/-- The scans that a request triggers in its own step. -/
def Request.triggers : Request → List Category
  | scan category => Catalogue.triggered category
  | sighting _ | services _ | sessions | everything | scanAll | cleanUpAll => []

/-- The categories of a list, each once and in the order in which they first occur there. -/
structure Firsts (categories asked : List Category) : Prop where
  same : ∀ category, category ∈ categories ↔ category ∈ asked
  once : categories.Nodup
  ordered : categories.Pairwise fun earlier later => asked.idxOf earlier < asked.idxOf later

namespace Firsts

variable {categories asked : List Category}

theorem nil : Firsts [] [] := ⟨fun _ => Iff.rfl, List.nodup_nil, List.Pairwise.nil⟩

/-- What is added behind a list changes nothing of the order of what has occurred in it. -/
theorem ordered_append (firsts : Firsts categories asked) (more : List Category) :
    categories.Pairwise fun earlier later => (asked ++ more).idxOf earlier < (asked ++ more).idxOf later := by
  refine firsts.ordered.imp_of_mem ?_
  intro earlier later inFront behind before
  rw [List.idxOf_append_of_mem ((firsts.same earlier).mp inFront),
    List.idxOf_append_of_mem ((firsts.same later).mp behind)]
  exact before

theorem concat_of_mem (firsts : Firsts categories asked) {target : Category} (known : target ∈ categories) :
    Firsts categories (asked ++ [target]) := by
  refine ⟨fun category => ?_, firsts.once, firsts.ordered_append [target]⟩
  rw [List.mem_append, List.mem_singleton, firsts.same category]
  constructor
  · exact .inl
  · rintro (member | rfl)
    · exact member
    · exact (firsts.same category).mp known

theorem concat_of_notMem (firsts : Firsts categories asked) {target : Category} (fresh : target ∉ categories) :
    Firsts (categories ++ [target]) (asked ++ [target]) := by
  refine ⟨fun category => ?_, ?_, ?_⟩
  · simp only [List.mem_append, firsts.same category]
  · simp only [List.nodup_append, firsts.once, List.nodup_singleton, List.mem_singleton, true_and]
    intro category member other same equal
    exact fresh (same ▸ equal ▸ member)
  · refine List.pairwise_append.mpr ⟨firsts.ordered_append [target], List.pairwise_singleton _ _, ?_⟩
    intro category member last same
    rw [List.mem_singleton.mp same]
    -- What is new stands behind all that was there.
    have unasked : target ∉ asked := fun member => fresh ((firsts.same target).mpr member)
    have listed := (firsts.same category).mp member
    rw [List.idxOf_append_of_mem listed, List.idxOf_append_of_notMem unasked]
    exact Nat.lt_of_lt_of_le (List.idxOf_lt_length_of_mem listed) (Nat.le_add_right _ _)

end Firsts

namespace Catalogue

variable {catalogue : Catalogue} {asked : List Category}

/-! ## One request -/

theorem firsts_queueScan (firsts : Firsts catalogue.pending asked) (target : Category) :
    Firsts (catalogue.queueScan target).pending (asked ++ [target]) := by
  unfold queueScan
  split
  next known => exact firsts.concat_of_mem known
  next fresh => exact firsts.concat_of_notMem fresh

theorem firsts_queueScans (firsts : Firsts catalogue.pending asked) (targets : List Category) :
    Firsts (targets.foldl queueScan catalogue).pending (asked ++ targets) := by
  induction targets generalizing catalogue asked with
  | nil => simpa using firsts
  | cons target rest ih => simpa using ih (firsts_queueScan firsts target)

theorem pending_services (catalogue : Catalogue) (reading : Reading) (category : Category) :
    (catalogue.perform (.request (.services category) reading)).catalogue.pending =
      (category.scanTarget.toList.foldl queueScan
        (catalogue.cleanUp (reading.clock category) category).catalogue).pending := by
  cases target : category.scanTarget <;> simp only [perform, handle, services, Step.andThen, target] <;> rfl

theorem pending_scanAll (catalogue : Catalogue) (reading : Reading) :
    (catalogue.perform (.request .scanAll reading)).catalogue.pending =
      (Category.scanned.foldl queueScan (catalogue.cleanUpAll reading.clock).catalogue).pending := rfl

theorem quiet_sighting (catalogue : Catalogue) (incoming : Sighting) (reading : Reading) :
    (catalogue.perform (.request (.sighting incoming) reading)).scans = [] ∧
      (catalogue.perform (.request (.sighting incoming) reading)).catalogue.pending = catalogue.pending := by
  rw [perform_sighting]
  split
  · exact ⟨rfl, rfl⟩
  · split
    · exact ⟨rfl, rfl⟩
    · split <;> exact ⟨rfl, rfl⟩

/-- What a request asks for is pending behind what was. -/
theorem firsts_perform (firsts : Firsts catalogue.pending asked) (request : Request) (reading : Reading) :
    Firsts (catalogue.perform (.request request reading)).catalogue.pending (asked ++ request.asks) := by
  have unmoved : Firsts catalogue.pending (asked ++ []) := (List.append_nil asked).symm ▸ firsts
  -- Some requests clean up before they queue a scan, and cleaning up leaves alone what is pending.
  cases request with
  | services category =>
    rw [pending_services]
    apply firsts_queueScans
    rw [(quiet_cleanUp catalogue (reading.clock category) category).2]
    exact firsts
  | scanAll =>
    rw [pending_scanAll]
    apply firsts_queueScans
    rw [(quiet_cleanUpAll catalogue reading.clock).2]
    exact firsts
  | sighting incoming =>
    rw [(quiet_sighting catalogue incoming reading).2]
    exact unmoved
  | cleanUpAll =>
    have kept : (catalogue.perform (.request .cleanUpAll reading)).catalogue.pending = catalogue.pending :=
      (quiet_cleanUpAll catalogue reading.clock).2
    rw [kept]
    exact unmoved
  | sessions | everything | scan => exact unmoved

/-- A query triggers nothing, only a request for a scan does. -/
theorem scans_perform (catalogue : Catalogue) (request : Request) (reading : Reading) :
    (catalogue.perform (.request request reading)).scans = request.triggers := by
  cases request with
  | services category =>
    -- The answer adds nothing to what cleaning up triggers, and that is nothing.
    have silent := (quiet_cleanUp catalogue (reading.clock category) category).1
    exact (List.append_nil _).trans silent
  | scanAll => exact (List.append_nil _).trans (quiet_cleanUpAll catalogue reading.clock).1
  | sighting incoming => exact (quiet_sighting catalogue incoming reading).1
  | cleanUpAll => exact (quiet_cleanUpAll catalogue reading.clock).1
  | sessions | everything | scan => rfl

theorem mem_scanned_of_asks {request : Request} {category : Category} (asks : category ∈ request.asks) :
    category ∈ Category.scanned := by
  cases request with
  | services named => cases named <;> simp_all [Request.asks, Category.scanTarget, Category.scanned]
  | scanAll => exact asks
  | sighting | sessions | everything | scan | cleanUpAll => cases asks

/-! ## Runs -/

/-- Requests one after the other, with no scans triggered in between but those that are requested as such. -/
def requests (between : List (Request × Reading)) : List Operation :=
  between.map fun entry => .request entry.1 entry.2

theorem firsts_run (firsts : Firsts catalogue.pending asked) (between : List (Request × Reading)) :
    Firsts (catalogue.run (requests between)).catalogue.pending (asked ++ between.flatMap (·.1.asks)) := by
  induction between generalizing catalogue asked with
  | nil => simpa [requests, idle] using firsts
  | cons entry rest ih =>
    rw [List.flatMap_cons, ← List.append_assoc]
    exact ih (firsts_perform firsts entry.1 entry.2)

theorem scans_run (catalogue : Catalogue) (between : List (Request × Reading)) :
    (catalogue.run (requests between)).scans = between.flatMap (·.1.triggers) := by
  induction between generalizing catalogue with
  | nil => rfl
  | cons entry rest ih =>
    rw [List.flatMap_cons, ← scans_perform catalogue entry.1 entry.2, ← ih]
    rfl

/-- In every state that is reached, what is pending has been asked for, and nothing else can be. -/
theorem exists_firsts (window : Span) (operations : List Operation) :
    ∃ asked, Firsts ((empty window).run operations).catalogue.pending asked ∧
      ∀ category ∈ asked, category ∈ Category.scanned := by
  apply run_induction (motive := fun catalogue => ∃ asked, Firsts catalogue.pending asked ∧
    ∀ category ∈ asked, category ∈ Category.scanned)
  case initial => exact ⟨[], .nil, fun _ member => nomatch member⟩
  case kept =>
    rintro catalogue operation ⟨asked, firsts, scanned⟩
    cases operation with
    | runPending => exact ⟨[], .nil, fun _ member => nomatch member⟩
    | request request reading =>
      refine ⟨asked ++ request.asks, firsts_perform firsts request reading, fun category member => ?_⟩
      rcases List.mem_append.mp member with before | asks
      · exact scanned category before
      · exact mem_scanned_of_asks asks

theorem forwards_of_scanned {category : Category} (scanned : category ∈ Category.scanned) :
    Dispatcher.Forwards category := by
  rw [Dispatcher.forwards_iff]
  revert category
  decide

/-- Nothing that is pending is lost on its way to be triggered. -/
theorem flatMap_triggered {pending : List Category} (scanned : ∀ category ∈ pending, category ∈ Category.scanned) :
    pending.flatMap triggered = pending := by
  have alone : ∀ category ∈ pending, triggered category = [category] := by
    intro category member
    have known := scanned category member
    exact if_neg fun sentinel => by simp [sentinel, Category.scanned] at known
  rw [List.flatMap_congr alone, List.flatMap_singleton']

/-- Between two times at which the scans that are due are triggered, a query triggers none, and the scans that are triggered
are those requested as such. The second time, each scan that queries have asked for since the first is triggered once, in
the order in which they asked for it first, and nothing else; afterwards none is pending. In every state that is reached no
scan is pending twice, and each is of one of the four categories that have a scan of their own, which a dispatcher passes
on. -/
theorem pending_scans_follow_requests (window : Span) (earlier : List Operation) (between : List (Request × Reading)) :
    let past := ((empty window).run earlier).catalogue
    let course := (past.perform .runPending).catalogue.run (requests between)
    let drained := course.catalogue.perform .runPending
    course.scans = between.flatMap (·.1.triggers) ∧
    (∀ reading, (∀ category, (course.catalogue.perform (.request (.services category) reading)).scans = []) ∧
      (course.catalogue.perform (.request .scanAll reading)).scans = []) ∧
    Firsts drained.scans (between.flatMap (·.1.asks)) ∧
    drained.catalogue.pending = [] ∧
    past.pending.Nodup ∧
    ∀ category ∈ past.pending, category ∈ [.hyperhdr, .wled, .hue, .serial] ∧ Dispatcher.Forwards category := by
  intro past course drained
  obtain ⟨asked, firsts, scanned⟩ := exists_firsts window earlier
  have none : Firsts (past.perform .runPending).catalogue.pending [] := .nil
  have since : Firsts course.catalogue.pending (between.flatMap (·.1.asks)) := firsts_run none between
  have due : drained.scans = course.catalogue.pending := by
    refine flatMap_triggered fun category member => ?_
    obtain ⟨entry, _, asks⟩ := List.mem_flatMap.mp ((since.same category).mp member)
    exact mem_scanned_of_asks asks
  refine ⟨scans_run _ between, fun reading => ⟨fun category => ?_, ?_⟩, ?_, rfl, firsts.once, fun category member => ?_⟩
  · exact scans_perform course.catalogue (.services category) reading
  · exact scans_perform course.catalogue .scanAll reading
  · rw [due]
    exact since
  · have known := scanned category ((firsts.same category).mp member)
    exact ⟨known, forwards_of_scanned known⟩

end Catalogue

end Discovery
