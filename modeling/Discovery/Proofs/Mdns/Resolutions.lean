import Discovery.Proofs.Mdns.OwnSession
import Mathlib.Data.Nat.Digits.Lemmas
import Mathlib.Data.Prod.Lex
/-!
# What the browser makes of a resolution

A resolved service is reported at one of its addresses and under its host name without the local domain. Which address
it is depends on what addresses there are and not on the order in which they are listed, because the addresses of one
version differ in their numbers. The host name of a session is the name of its host with the local domain behind it, so
what comes back is the name of the host without the local domains that it ends in itself; a local domain that gets lost on
the way makes no difference.
-/
namespace Discovery

namespace Net.Address

/-! ## Addresses as numbers -/

/-- The number that has the groups of an address for digits. -/
def number : Address → Nat
  | v4 octets => Nat.ofDigits 256 (octets.toList.map UInt8.toNat).reverse
  | v6 groups => Nat.ofDigits 65536 (groups.toList.map UInt16.toNat).reverse

theorem ofDigits_eq (base : Nat) (run : List Nat) : ofDigits base run = Nat.ofDigits base run.reverse := by
  have step : (fun total digit => total * base + digit) = fun total digit : Nat => digit + base * total := by
    funext total digit
    rw [Nat.mul_comm, Nat.add_comm]
  simp only [ofDigits, step, Nat.ofDigits_eq_foldr, List.foldr_reverse, Nat.cast_id]

theorem rank_eq (address : Address) : address.rank = (if address.isV4 then 0 else 1, address.number) := by
  cases address with
  | v4 octets => simp [rank, number, isV4, ofDigits_eq]
  | v6 groups => simp [rank, number, isV4, ofDigits_eq]

/-- A run of digits of known length can be read off its number. -/
theorem eq_of_ofDigits {δ : Type} {value : δ → Nat} (separate : Function.Injective value) {base : Nat} (more : 1 < base)
    (below : ∀ digit, value digit < base) {length : Nat} {left right : Vector δ length}
    (same : Nat.ofDigits base (left.toList.map value).reverse = Nat.ofDigits base (right.toList.map value).reverse) :
    left = right := by
  have bounded (run : Vector δ length) : ∀ digit ∈ (run.toList.map value).reverse, digit < base := by
    intro digit member
    obtain ⟨held, _, rfl⟩ := List.mem_map.mp (List.mem_reverse.mp member)
    exact below held
  -- Leading zeros do not show in a number, so it takes the common length to compare the digits.
  have digits := Nat.ofDigits_inj_of_len_eq more (by simp) (bounded left) (bounded right) same
  exact Vector.toList_inj.mp (List.map_injective_iff.mpr separate (List.reverse_inj.mp digits))

/-- Addresses of one version are the same if they have the same number. -/
theorem eq_of_number {left right : Address} (version : left.isV4 = right.isV4) (same : left.number = right.number) :
    left = right := by
  cases left with
  | v4 octets =>
    cases right with
    | v4 others =>
      rw [eq_of_ofDigits (fun _ _ => UInt8.toNat_inj.mp) (by decide) UInt8.toNat_lt same]
    | v6 _ => cases version
  | v6 groups =>
    cases right with
    | v4 _ => cases version
    | v6 others =>
      rw [eq_of_ofDigits (fun _ _ => UInt16.toNat_inj.mp) (by decide) UInt16.toNat_lt same]

/-! ## The least of a list -/

theorem le_iff {left right : Address} : left.le right = true ↔ toLex left.rank ≤ toLex right.rank := by
  simp [le, Prod.Lex.toLex_le_toLex]

theorem least?_le {addresses : List Address} {address : Address} (least : least? addresses = some address) :
    ∀ other ∈ addresses, toLex address.rank ≤ toLex other.rank := by
  induction addresses generalizing address with
  | nil => simp
  | cons first rest ih =>
    simp only [least?] at least
    cases found : least? rest with
    | none =>
      have empty : rest = [] := by
        by_contra some
        simpa [found] using Mdns.isSome_least? some
      have same : first = address := by simpa [found] using least
      simp [empty, same]
    | some other =>
      have behind := ih found
      simp only [found, Option.some.injEq] at least
      intro listed member
      split at least
      next before =>
        subst least
        rcases List.mem_cons.mp member with rfl | member
        · exact le_refl _
        · exact (le_iff.mp before).trans (behind listed member)
      next after =>
        subst least
        rcases List.mem_cons.mp member with rfl | member
        · exact le_of_not_ge (fun before => after (le_iff.mpr before))
        · exact behind listed member

end Net.Address

namespace Mdns

open Net (Address)

/-- The address to report for a service: no other of its version has a lower number, and version 4 goes first. -/
structure Preferred (addresses : List Address) (address : Address) : Prop where
  member : address ∈ addresses
  version : (∃ other ∈ addresses, other.isV4 = true) → address.isV4 = true
  least : ∀ other ∈ addresses, other.isV4 = address.isV4 → address.number ≤ other.number

variable {addresses others : List Address} {address : Address} {announcement : Announcement}

theorem Preferred.unique (preferred : Preferred addresses address) {other : Address} (also : Preferred addresses other) :
    address = other := by
  have version : address.isV4 = other.isV4 := by
    cases own : address.isV4 with
    | true => exact (also.version ⟨address, preferred.member, own⟩).symm
    | false =>
      by_contra differ
      have foreign : other.isV4 = true := by simpa using Ne.symm differ
      exact absurd (preferred.version ⟨other, also.member, foreign⟩) (by simp [own])
  have before := preferred.least other also.member version.symm
  have behind := also.least address preferred.member version
  exact Address.eq_of_number version (Nat.le_antisymm before behind)

/-- Among addresses of one version, what comes first has the lower number. -/
theorem number_le_of_rank_le {left right : Address} (version : right.isV4 = left.isV4)
    (before : toLex left.rank ≤ toLex right.rank) : left.number ≤ right.number := by
  simpa [Prod.Lex.toLex_le_toLex, Address.rank_eq, version] using before

theorem preferred_of_address? (entered : announcement.address? = some address) :
    Preferred announcement.addresses address := by
  have member := mem_of_address? entered
  unfold Announcement.address? at entered
  split at entered
  next least =>
    -- There are addresses of version 4, and this is the least of them.
    cases entered
    have own : address.isV4 = true := List.of_mem_filter (mem_of_least? least)
    refine ⟨member, fun _ => own, fun other listed version => number_le_of_rank_le version ?_⟩
    exact Address.least?_le least other (List.mem_filter.mpr ⟨listed, version.trans own⟩)
  next none =>
    -- There is no address of version 4, so the least of all has the least number.
    refine ⟨member, ?_, fun other listed version => number_le_of_rank_le version ?_⟩
    · rintro ⟨other, listed, fourth⟩
      have some : announcement.addresses.filter Address.isV4 ≠ [] :=
        List.ne_nil_of_mem (List.mem_filter.mpr ⟨listed, fourth⟩)
      simpa [none] using isSome_least? some
    · exact Address.least?_le entered other listed

theorem isSome_address?_iff : announcement.address?.isSome = true ↔ announcement.addresses ≠ [] := by
  constructor
  · intro entered
    obtain ⟨address, entered⟩ := Option.isSome_iff_exists.mp entered
    exact List.ne_nil_of_mem (mem_of_address? entered)
  · intro some
    obtain ⟨sighting, sighted⟩ := exists_sighting? some .unknown
    obtain ⟨address, entered, _⟩ := Option.map_eq_some_iff.mp sighted
    rw [entered]
    rfl

theorem address?_eq_some_iff : announcement.address? = some address ↔ Preferred announcement.addresses address := by
  constructor
  · exact preferred_of_address?
  · intro preferred
    have some : announcement.addresses ≠ [] := List.ne_nil_of_mem preferred.member
    obtain ⟨other, entered⟩ := Option.isSome_iff_exists.mp (isSome_address?_iff.mpr some)
    rw [entered, preferred.unique (preferred_of_address? entered)]

theorem preferred_congr (same : ∀ address, address ∈ others ↔ address ∈ addresses) :
    Preferred others address ↔ Preferred addresses address := by
  constructor
  · rintro ⟨member, version, least⟩
    exact ⟨(same _).mp member, by simpa only [same] using version, by simpa only [same] using least⟩
  · rintro ⟨member, version, least⟩
    exact ⟨(same _).mpr member, by simpa only [same] using version, by simpa only [same] using least⟩

/-! ## Endings -/

/-- What a text is but for an ending, and the ending behind it any number of times. -/
structure Stem (ending text stem : List Char) : Prop where
  split : ∃ count, text = stem ++ (List.replicate count ending).flatten
  bare : ¬ ending <:+ stem

variable {ending text rest : List Char}

theorem dropEnding?_append (text ending : List Char) : dropEnding? ending (text ++ ending) = some text := by
  have ends : ending.isSuffixOf (text ++ ending) = true := List.isSuffixOf_iff_suffix.mpr ⟨text, rfl⟩
  simp [dropEnding?, ends]

theorem eq_of_dropEnding? (found : dropEnding? ending text = some rest) : text = rest ++ ending := by
  unfold dropEnding? at found
  split at found
  next ends =>
    obtain ⟨front, rfl⟩ := List.isSuffixOf_iff_suffix.mp ends
    simpa using found
  next => cases found

theorem dropEndings_append (present : ending ≠ []) (text : List Char) :
    dropEndings ending (text ++ ending) = dropEndings ending text := by
  have shorter : text.length < (text ++ ending).length := by
    rw [List.length_append]
    exact Nat.lt_add_of_pos_right (List.length_pos_iff.mpr present)
  rw [dropEndings]
  simp only [dropEnding?_append, if_pos shorter]

theorem dropEndings_of_bare (bare : ¬ ending <:+ text) : dropEndings ending text = text := by
  have missing : dropEnding? ending text = none := by
    rw [Option.eq_none_iff_forall_ne_some]
    intro rest found
    exact bare ⟨rest, (eq_of_dropEnding? found).symm⟩
  rw [dropEndings]
  simp only [missing]

theorem stem_dropEndings (present : ending ≠ []) (text : List Char) : Stem ending text (dropEndings ending text) := by
  fun_induction dropEndings ending text with
  | case1 text rest found shorter ih =>
    -- What the rest ends in, and the ending behind it once more.
    obtain ⟨count, same⟩ := ih.split
    refine ⟨⟨count + 1, ?_⟩, ih.bare⟩
    rw [eq_of_dropEnding? found, List.replicate_succ', List.flatten_append, List.flatten_singleton,
      ← List.append_assoc, ← same]
  | case2 text rest found longer =>
    -- The rest is shorter, for the ending is not empty.
    rw [eq_of_dropEnding? found, List.length_append] at longer
    exact absurd (Nat.lt_add_of_pos_right (List.length_pos_iff.mpr present)) longer
  | case3 text missing =>
    refine ⟨⟨0, by simp⟩, ?_⟩
    rintro ⟨rest, same⟩
    rw [← same, dropEnding?_append] at missing
    cases missing

theorem Stem.eq_dropEndings (present : ending ≠ []) {stem : List Char} (split : Stem ending text stem) :
    stem = dropEndings ending text := by
  obtain ⟨⟨count, rfl⟩, bare⟩ := split
  induction count with
  | zero => simp [dropEndings_of_bare bare]
  | succ count ih =>
    rw [List.replicate_succ', List.flatten_append, List.flatten_singleton, ← List.append_assoc, dropEndings_append present]
    exact ih

/-! ## Host names -/

/-- The local domain, with the dot in front of it. -/
def localDomain : List Char := ".local".toList

theorem bareHostName_local (name : List Char) :
    bareHostName (String.ofList (name ++ localDomain ++ ['.'])) = String.ofList (dropEndings localDomain name) := by
  -- Only the last dot is dropped, even if the name has dots at its end, for the domain stands between them.
  have undotted : ¬ ['.'] <:+ name ++ localDomain := by
    rintro ⟨front, same⟩
    have ends : name ++ localDomain = (name ++ ".loca".toList) ++ ['l'] := by
      rw [List.append_assoc]
      rfl
    have last := (List.append_inj' (same.trans ends) rfl).2
    exact absurd last (by decide)
  have shown : dropEndings ['.'] (String.ofList (name ++ localDomain ++ ['.'])).toList = name ++ localDomain := by
    rw [String.toList_ofList, dropEndings_append (by decide), dropEndings_of_bare undotted]
  unfold bareHostName
  rw [shown]
  exact congrArg String.ofList (dropEndings_append (by decide) name)

/-- A host name is shown the same whether or not it has lost the second of two local domains. -/
theorem bareHostName_normal (name : String) : bareHostName (normalHostName name) = bareHostName name := by
  unfold normalHostName
  split
  next stem found =>
    have shape : name.toList = (stem ++ localDomain) ++ localDomain ++ ['.'] := by
      rw [eq_of_dropEnding? found, List.append_assoc, List.append_assoc]
      rfl
    have twice : name = String.ofList ((stem ++ localDomain) ++ localDomain ++ ['.']) := by
      rw [← shape, String.ofList_toList]
    have once : String.ofList stem ++ ".local." = String.ofList (stem ++ localDomain ++ ['.']) := by
      rw [List.append_assoc, String.ofList_append]
      rfl
    rw [once, twice, bareHostName_local, bareHostName_local, dropEndings_append (by decide)]
  next => rfl

theorem bareHostName_iterate_normal (name : String) (count : Nat) :
    bareHostName (normalHostName^[count] name) = bareHostName name := by
  induction count with
  | zero => rfl
  | succ count ih => rw [Function.iterate_succ_apply', bareHostName_normal, ih]

theorem hostName_of_registered {settings : AdvertiseSettings} {identity : HostIdentity} {responder : Responder}
    {session : Announcement} (registered : (Session.register settings identity responder).result = .ok session)
    {bytes : List UInt8} (named : identity.hostName = .ok bytes) :
    session.hostName = normalHostName (String.ofList (Text.Utf8.decodeLossy bytes) ++ ".local.") := by
  obtain ⟨spelled, own, rfl, rfl⟩ := announcement_of_registered registered
  cases named
  rfl

/-- However often it is put in normal form on its way, the host name of a session is shown as the name of the host
without the local domains at its end. -/
theorem bareHostName_of_registered {settings : AdvertiseSettings} {identity : HostIdentity} {responder : Responder}
    {session : Announcement} (registered : (Session.register settings identity responder).result = .ok session)
    {bytes : List UInt8} (named : identity.hostName = .ok bytes) (count : Nat) :
    (bareHostName (normalHostName^[count] session.hostName)).toList =
      dropEndings localDomain (Text.Utf8.decodeLossy bytes) := by
  have joined : String.ofList (Text.Utf8.decodeLossy bytes) ++ ".local." =
      String.ofList (Text.Utf8.decodeLossy bytes ++ localDomain ++ ['.']) := by
    rw [List.append_assoc, String.ofList_append]
    rfl
  rw [bareHostName_iterate_normal, hostName_of_registered registered named, bareHostName_normal, joined,
    bareHostName_local, String.toList_ofList]

/-! ## The report -/

theorem reported_eq {browser : Browser} {listener : Listener} (heard : browser.hears listener = true)
    (service : Announcement) :
    (browser.receive listener (.event (.resolved service))).2 = service.sighting? listener.category := by
  rw [receive_of_hears heard, Browser.apply]
  split
  next sighted => exact sighted.symm
  next unsighted => exact unsighted.symm

/-- Whoever resolves a service reports it just if there is an address to it, and then at the address of version 4 that is
numerically the least, or of version 6 if there is none of version 4; the order of the addresses does not matter. Where the
service is the session of a host, the report has the name of that host, less the local domains that it ends in, and also if
the name has been put in normal form again in between. -/
theorem resolution_reports_least_address (browser : Browser) {listener : Listener} (heard : browser.hears listener = true) :
    let reported (service : Announcement) := (browser.receive listener (.event (.resolved service))).2
    (∀ service, (reported service).isSome = true ↔ service.addresses ≠ []) ∧
    (∀ service sighting, reported service = some sighting →
      sighting.category = listener.category ∧ sighting.port = service.port ∧ sighting.live = true ∧
        ∃ address, Preferred service.addresses address ∧ sighting.address = address.toText) ∧
    (∀ service others, (∀ address, address ∈ others ↔ address ∈ service.addresses) →
      reported { service with addresses := others } = reported service) ∧
    ∀ settings identity responder session bytes, (Session.register settings identity responder).result = .ok session →
      identity.hostName = .ok bytes → ∀ service count sighting,
        service.hostName = normalHostName^[count] session.hostName → reported service = some sighting →
          let name := Text.Utf8.decodeLossy bytes
          Stem localDomain name sighting.hostName.toList ∧
            (¬ localDomain <:+ name → sighting.hostName = String.ofList name) := by
  intro reported
  have reports (service : Announcement) : reported service = service.sighting? listener.category :=
    reported_eq heard service
  refine ⟨fun service => ?_, fun service sighting found => ?_, fun service others same => ?_, ?_⟩
  · rw [reports, Announcement.sighting?, Option.isSome_map]
    exact isSome_address?_iff
  · rw [reports] at found
    obtain ⟨address, entered, rfl⟩ := Option.map_eq_some_iff.mp found
    exact ⟨rfl, rfl, rfl, address, preferred_of_address? entered, rfl⟩
  · have entered : ({ service with addresses := others } : Announcement).address? = service.address? := by
      ext address
      rw [address?_eq_some_iff, address?_eq_some_iff]
      exact preferred_congr same
    rw [reports, reports, Announcement.sighting?, Announcement.sighting?, entered]
  · intro settings identity responder session bytes registered named service count sighting same found name
    rw [reports] at found
    obtain ⟨address, _, rfl⟩ := Option.map_eq_some_iff.mp found
    have shown : (bareHostName service.hostName).toList = dropEndings localDomain name := by
      rw [same]
      exact bareHostName_of_registered registered named count
    refine ⟨?_, fun bare => ?_⟩
    · rw [shown]
      exact stem_dropEndings (by decide) name
    · rw [← String.toList_inj, shown, String.toList_ofList]
      exact dropEndings_of_bare bare

/-- The addresses of a host, among them two of which the one with the greater number comes first as a text. -/
def rack : List Address := [.v6 #v[0xfe80, 0, 0, 0, 0, 0, 0, 9], .v4 #v[10, 0, 0, 10], .v4 #v[10, 0, 0, 9]]

theorem preferred_rack : Preferred rack (.v4 #v[10, 0, 0, 9]) where
  member := by decide
  version _ := rfl
  least := by decide

theorem resolution_reports_least_address_of_rack :
    let obeys : Responder := fun _ => .ok ()
    let browser := (Browser.empty.startAll obeys).browser
    let spelled : List UInt8 := [116, 111, 119, 101, 114, 46, 108, 111, 99, 97, 108]
    let identity : HostIdentity := ⟨.ok spelled, .readable rack⟩
    Text.Utf8.decodeLossy spelled = "tower.local".toList ∧
    ∃ session, (Session.register .default identity obeys).result = .ok session ∧ session.hostName = "tower.local." ∧
      ∃ sighting, (browser.receive ⟨.hyperhdr, 1⟩ (.event (.resolved { session with addresses := rack.reverse }))).2 =
        some sighting ∧ sighting.address = "10.0.0.9" ∧ sighting.hostName = "tower" := by
  intro obeys browser spelled identity
  let session := Session.announcement .default (String.ofList (Text.Utf8.decodeLossy spelled)) rack
  have registered : (Session.register .default identity obeys).result = .ok session := rfl
  have heard : browser.hears ⟨.hyperhdr, 1⟩ = true := by decide
  refine ⟨by decide +kernel, session, registered, by decide +kernel, ?_⟩
  obtain ⟨placed, described, _, named⟩ := resolution_reports_least_address browser heard
  obtain ⟨sighting, found⟩ := Option.isSome_iff_exists.mp
    ((placed { session with addresses := rack.reverse }).mpr (by decide))
  refine ⟨sighting, found, ?_, ?_⟩
  · obtain ⟨_, _, _, address, preferred, same⟩ := described _ _ found
    have least : Preferred rack address := (preferred_congr fun _ => List.mem_reverse).mp preferred
    rw [same, ← preferred_rack.unique least]
    decide +kernel
  · have stem := (named _ _ _ _ _ registered rfl _ 0 _ rfl found).1.eq_dropEndings (by decide)
    rw [← String.toList_inj, stem]
    decide +kernel

end Mdns

end Discovery
