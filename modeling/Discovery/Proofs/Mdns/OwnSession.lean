import Discovery.Mdns.Session
import Discovery.Proofs.Catalogue.Run
import Discovery.Proofs.Mdns.Removals
import Discovery.Proofs.Net.RoundTrip
/-!
# This host sees itself

The session of this host is announced at addresses of its own interfaces. Whichever of them a resolution carries, the
browser enters the service at one of those; written as text and read back, that address is local, so the sighting is
ignored. The same holds of the deregistration when the session goes away, since it repeats a sighting.
-/
namespace Discovery.Mdns

open Net (Address Interfaces)
open Time (Span)

/-! ## The address of a service -/

theorem mem_of_least? {addresses : List Address} {address : Address}
    (least : Address.least? addresses = some address) : address ∈ addresses := by
  induction addresses generalizing address with
  | nil => simp [Address.least?] at least
  | cons first rest ih =>
    simp only [Address.least?] at least
    cases found : Address.least? rest with
    | none =>
      have same : first = address := by simpa [found] using least
      simp [same]
    | some other =>
      simp only [found, Option.some.injEq] at least
      split at least
      · simp [least]
      · exact List.mem_cons_of_mem first (ih (least ▸ found))

theorem isSome_least? {addresses : List Address} (some : addresses ≠ []) : (Address.least? addresses).isSome := by
  cases addresses with
  | nil => exact absurd rfl some
  | cons first rest =>
    simp only [Address.least?]
    cases Address.least? rest <;> rfl

theorem mem_of_address? {announcement : Announcement} {address : Address}
    (entered : announcement.address? = some address) : address ∈ announcement.addresses := by
  unfold Announcement.address? at entered
  split at entered
  next least =>
    cases entered
    exact List.mem_of_mem_filter (mem_of_least? least)
  next => exact mem_of_least? entered

theorem exists_sighting? {announcement : Announcement} (some : announcement.addresses ≠ []) (category : Category) :
    ∃ sighting, announcement.sighting? category = .some sighting := by
  have entered : announcement.address?.isSome := by
    unfold Announcement.address?
    split
    next => rfl
    next => exact isSome_least? some
  obtain ⟨address, entered⟩ := Option.isSome_iff_exists.mp entered
  exact ⟨_, by rw [Announcement.sighting?, entered]; rfl⟩

/-- A service that is announced at addresses of this host only is sighted at a local address. -/
theorem isLocal_of_sighting? {announcement : Announcement} {own : List Address} (held : announcement.addresses ⊆ own)
    {category : Category} {sighting : Sighting} (sighted : announcement.sighting? category = some sighting) :
    (Interfaces.readable own).isLocal sighting.address = true := by
  obtain ⟨address, entered, rfl⟩ := Option.map_eq_some_iff.mp sighted
  exact Net.isLocal_toText.mpr ⟨address, held (mem_of_address? entered), rfl⟩

/-! ## The session -/

/-- A session that is registered is announced under the name of the host, at the addresses of its interfaces. -/
theorem announcement_of_registered {settings : AdvertiseSettings} {identity : HostIdentity} {responder : Responder}
    {session : Announcement} (registered : (Session.register settings identity responder).result = .ok session) :
    ∃ bytes own, identity = ⟨.ok bytes, .readable own⟩ ∧
      session = Session.announcement settings (String.ofList (Text.Utf8.decodeLossy bytes)) own := by
  obtain ⟨hostName, interfaces⟩ := identity
  cases hostName with
  | error reason => simp [Session.register, Session.describe] at registered
  | ok bytes =>
    cases interfaces with
    | unreadable reason => simp [Session.register, Session.describe] at registered
    | readable own =>
      simp only [Session.register, Session.describe] at registered
      split at registered
      next => cases registered
      next =>
        cases registered
        exact ⟨bytes, own, rfl, rfl⟩

/-- Loopback addresses apart, a session is announced at all addresses of the interfaces and at no others. -/
theorem addresses_of_registered {settings : AdvertiseSettings} {identity : HostIdentity} {own : List Address}
    (readable : identity.interfaces = .readable own) {responder : Responder} {session : Announcement}
    (registered : (Session.register settings identity responder).result = .ok session) :
    session.addresses = own.filter (!·.isLoopback) := by
  obtain ⟨bytes, addresses, rfl, rfl⟩ := announcement_of_registered registered
  cases readable
  rfl

/-- Whenever the service was resolved, it was at some of the addresses at which it is announced. -/
def ResolvedAs (session : Announcement) (happenings : List Happening) : Prop :=
  ∀ listener service, .arrival listener (.event (.resolved service)) ∈ happenings →
    service.fullName = session.fullName → ∃ seen ⊆ session.addresses, service = { session with addresses := seen }

/-- What is remembered under the name of a session is local if all its addresses are. -/
theorem isLocal_of_sighted {session : Announcement} {own : List Address} (held : session.addresses ⊆ own)
    {responder : Responder} {happenings : List Happening} (resolved : ResolvedAs session happenings)
    {sighting : Sighting} (sighted : Sighted (History.after responder happenings).rounds session.fullName sighting) :
    (Interfaces.readable own).isLocal sighting.address = true := by
  obtain ⟨listener, service, member, same, found⟩ := resolved_of_sighted sighted
  obtain ⟨seen, among, rfl⟩ := resolved listener service member same
  have within : ({ session with addresses := seen } : Announcement).addresses ⊆ own := List.Subset.trans among held
  exact isLocal_of_sighting? within found

/-- However the interfaces are numbered, and whatever the host, the instance and the port are: when the browser of this
host resolves the session that was announced, with any of its addresses in any order, the sighting that it reports is
ignored by every catalogue that a run can lead to, and so is what it reports when the session is removed. -/
theorem own_session_is_ignored {settings : AdvertiseSettings} {identity : HostIdentity} {own : List Address}
    (readable : identity.interfaces = .readable own) {registrar : Responder} {session : Announcement}
    (registered : (Session.register settings identity registrar).result = .ok session)
    (responder : Responder) {happenings : List Happening} (resolved : ResolvedAs session happenings)
    (window : Span) (operations : List Operation) {reading : Reading} (unchanged : reading.interfaces = .readable own) :
    let browser := (History.after responder happenings).browser
    let catalogue := ((Catalogue.empty window).run operations).catalogue
    ∀ listener, browser.hears listener = true →
      (∀ seen ⊆ session.addresses, seen ≠ [] → ∃ sighting,
        (browser.receive listener (.event (.resolved { session with addresses := seen }))).2 = some sighting ∧
        sighting.live = true ∧ catalogue.Ignores reading sighting) ∧
      ∀ last, Sighted (History.after responder happenings).rounds session.fullName last →
        (browser.receive listener (.event (.removed session.fullName))).2 = some { last with live := false } ∧
        catalogue.Ignores reading { last with live := false } := by
  intro browser catalogue listener heard
  have complete : catalogue.Complete := Catalogue.complete_run window operations
  -- Whatever address the browser picks, it has been announced, and so it is one of this host's.
  have held : session.addresses ⊆ own := by
    rw [addresses_of_registered readable registered]
    exact List.filter_subset_self _
  have ignored {sighting : Sighting} (isLocal : (Interfaces.readable own).isLocal sighting.address = true) :
      catalogue.Ignores reading sighting := Catalogue.ignores_of_local complete (unchanged ▸ isLocal)
  refine ⟨fun seen among some => ?_, fun last sighted => ⟨?_, ?_⟩⟩
  · have some : ({ session with addresses := seen } : Announcement).addresses ≠ [] := some
    obtain ⟨sighting, found⟩ := exists_sighting? some listener.category
    refine ⟨sighting, ?_, (live_of_sighting? found).1, ignored (isLocal_of_sighting? (List.Subset.trans among held) found)⟩
    simp [receive_of_hears heard, Browser.apply, found]
  · have remembered : browser.remembered? session.fullName = some last :=
      (remembered?_after responder happenings session.fullName last).mpr sighted
    simp [receive_of_hears heard, Browser.apply, remembered]
  · have isLocal := isLocal_of_sighted held resolved sighted
    exact ignored isLocal

/-- A host with a loopback address, an address of version 4 and one of version 6. -/
def desk : List Address := [.v4 #v[127, 0, 0, 1], .v4 #v[10, 0, 0, 2], .v6 #v[0xfe80, 0, 0, 0, 0, 0, 0, 1]]

theorem own_session_is_ignored_on_desk :
    let identity : HostIdentity := ⟨.ok [100, 101, 115, 107], .readable desk⟩
    let obeys : Responder := fun _ => .ok ()
    let reading : Reading := ⟨fun _ => ⟨0, 0, by decide, by decide⟩, .readable desk⟩
    ∃ session, (Session.register .default identity obeys).result = .ok session ∧
      (History.after obeys []).browser.hears ⟨.hyperhdr, 1⟩ = true ∧
      ∃ sighting, ((Browser.empty.startAll obeys).browser.receive ⟨.hyperhdr, 1⟩
          (.event (.resolved { session with addresses := session.addresses.reverse }))).2 = some sighting ∧
        (Catalogue.empty Sighting.defaultWindow).Ignores reading sighting := by
  intro identity obeys reading
  refine ⟨_, rfl, by decide, ?_⟩
  have readable : identity.interfaces = .readable desk := rfl
  have registered : (Session.register .default identity obeys).result = .ok _ := rfl
  have unresolved (session : Announcement) : ResolvedAs session [] := by simp [ResolvedAs]
  have unchanged : reading.interfaces = .readable desk := rfl
  have found := own_session_is_ignored readable registered obeys (unresolved _) Sighting.defaultWindow [] unchanged
    ⟨.hyperhdr, 1⟩ (by decide)
  obtain ⟨sighting, reported, _, ignored⟩ := found.1 _ (List.reverse_subset.mpr fun _ member => member) (by decide)
  exact ⟨sighting, reported, ignored⟩

end Discovery.Mdns
