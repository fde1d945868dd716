import Discovery.Net.Interfaces
import Discovery.Proofs.Net.Grammar

/-!
# Announced addresses

An address may be announced with brackets around it and a zone behind it. What is read of such a text is the address without
them, whatever the zone is, since no text of an address holds a bracket or a percent sign. Two addresses have one canonical
form if they are the same or if one of them maps the other. So a text is local exactly if it announces an address of a host
that an interface has an address of.
-/
namespace Discovery.Net

/-! ## Canonical forms -/

namespace Address

theorem toNat_ofBytes (high low : UInt8) : (ofBytes high low).toNat = high.toNat * 256 + low.toNat := by
  have highSmall : high.toNat < 2 ^ 8 := high.toNat_lt
  have lowSmall : low.toNat < 2 ^ 8 := low.toNat_lt
  -- No bit of the high byte is shifted out of the group.
  have shifted : high.toNat <<< 8 % 2 ^ 16 = high.toNat <<< 8 := by
    apply Nat.mod_eq_of_lt
    rw [Nat.shiftLeft_eq]
    omega
  simp only [ofBytes, UInt16.toNat_or, UInt16.toNat_shiftLeft, UInt8.toNat_toUInt16]
  have eight : UInt16.toNat 8 % 16 = 8 := by decide
  rw [eight, shifted, ← Nat.shiftLeft_add_eq_or_of_lt lowSmall, Nat.shiftLeft_eq]

theorem toNat_highByte (group : UInt16) : (highByte group).toNat = group.toNat / 256 := by
  have small : group.toNat < 2 ^ 16 := group.toNat_lt
  have eight : UInt16.toNat 8 % 16 = 8 := by decide
  simp only [highByte, UInt16.toNat_toUInt8, UInt16.toNat_shiftRight, eight, Nat.shiftRight_eq_div_pow]
  omega

theorem toNat_lowByte (group : UInt16) : (lowByte group).toNat = group.toNat % 256 := UInt16.toNat_toUInt8 group

theorem ofBytes_bytes (group : UInt16) : ofBytes (highByte group) (lowByte group) = group := by
  apply UInt16.toNat_inj.mp
  rw [toNat_ofBytes, toNat_highByte, toNat_lowByte]
  omega

theorem highByte_ofBytes (high low : UInt8) : highByte (ofBytes high low) = high := by
  have small := low.toNat_lt
  apply UInt8.toNat_inj.mp
  rw [toNat_highByte, toNat_ofBytes]
  omega

theorem lowByte_ofBytes (high low : UInt8) : lowByte (ofBytes high low) = low := by
  have small := low.toNat_lt
  apply UInt8.toNat_inj.mp
  rw [toNat_lowByte, toNat_ofBytes]
  omega

theorem size_mapping (octets : Vector UInt8 4) :
    ([0, 0, 0, 0, 0, 0xffff] ++ pairs octets.toList).toArray.size = 8 := by
  obtain ⟨a, b, c, d, rfl⟩ := exists_octets octets
  rfl

/-- The groups of the address of version 6 that maps one of version 4. -/
def mapping (octets : Vector UInt8 4) : Vector UInt16 8 :=
  ⟨([0, 0, 0, 0, 0, 0xffff] ++ pairs octets.toList).toArray, size_mapping octets⟩

theorem toList_mapping (octets : Vector UInt8 4) :
    (mapping octets).toList = [0, 0, 0, 0, 0, 0xffff] ++ pairs octets.toList := rfl

theorem mapped?_eq_some_iff {groups : Vector UInt16 8} {octets : Vector UInt8 4} :
    mapped? groups = some octets ↔ groups = mapping octets := by
  constructor
  · intro mapped
    -- The first six groups mark the address as mapped, and the other two have two octets each.
    have parts : groups.toList = groups.toList.take 6 ++ [groups[6], groups[7]] := by
      refine List.ext_getElem (by simp) fun index within _ => ?_
      simp only [Vector.length_toList] at within
      obtain front | rfl | rfl : index < 6 ∨ index = 6 ∨ index = 7 := by omega
      · rw [List.getElem_append_left (by simp; omega), List.getElem_take]
      all_goals simp
    unfold mapped? at mapped
    split at mapped
    next front =>
      cases mapped
      apply Vector.toList_inj.mp
      rw [parts, front, toList_mapping]
      simp [pairs, ofBytes_bytes]
    next => cases mapped
  · intro same
    -- Both bytes of the last two groups are got out of them again.
    obtain ⟨a, b, c, d, rfl⟩ := exists_octets octets
    rw [same]
    have front : (mapping #v[a, b, c, d]).toList.take 6 = [0, 0, 0, 0, 0, 0xffff] := rfl
    rw [mapped?, if_pos front]
    simp [mapping, pairs, highByte_ofBytes, lowByte_ofBytes]

/-- Two addresses of one host: they are the same, or one of them maps the other. -/
inductive SameHost : Address → Address → Prop
  | same (address : Address) : SameHost address address
  | mapped (octets : Vector UInt8 4) : SameHost (.v6 (mapping octets)) (.v4 octets)
  | mapping (octets : Vector UInt8 4) : SameHost (.v4 octets) (.v6 (mapping octets))

theorem canonical_mapping (octets : Vector UInt8 4) : canonical (.v6 (mapping octets)) = .v4 octets := by
  have mapped : mapped? (mapping octets) = some octets := mapped?_eq_some_iff.mpr rfl
  simp only [canonical, mapped]

/-- An address is its own canonical form unless it maps one of version 4. -/
theorem canonical_cases (address : Address) :
    address.canonical = address ∨ ∃ octets, address = .v6 (mapping octets) ∧ address.canonical = .v4 octets := by
  cases address with
  | v4 octets =>
    left
    rfl
  | v6 groups =>
    cases mapped : mapped? groups with
    | some octets =>
      right
      rw [mapped?_eq_some_iff.mp mapped]
      exact ⟨octets, rfl, canonical_mapping octets⟩
    | none =>
      left
      simp only [canonical, mapped]

theorem canonical_eq_iff {left right : Address} : left.canonical = right.canonical ↔ SameHost left right := by
  constructor
  · intro same
    rcases canonical_cases left with kept | ⟨octets, maps, mapped⟩
    · rcases canonical_cases right with kept' | ⟨octets', maps', mapped'⟩
      · rw [← kept, same, kept']
        exact .same right
      · rw [← kept, same, mapped', maps']
        exact .mapping octets'
    · rcases canonical_cases right with kept' | ⟨octets', maps', mapped'⟩
      · rw [← kept', ← same, mapped, maps]
        exact .mapped octets
      · rw [mapped, mapped'] at same
        cases same
        rw [maps, maps']
        exact .same _
  · intro same
    cases same with
    | same => rfl
    | mapped octets => exact canonical_mapping octets
    | mapping octets => exact (canonical_mapping octets).symm

end Address

/-! ## Brackets and zones -/

/-- The text with any number of brackets around it, and perhaps a zone behind it. -/
inductive Dressed (bare : List Char) : List Char → Prop
  | mk (opening closing : Nat) {zone : List Char} : (∀ char ∈ zone.head?, char = '%') →
      Dressed bare (List.replicate opening '[' ++ (bare ++ (zone ++ List.replicate closing ']')))

theorem dressed_self (text : List Char) : Dressed text text := by
  simpa using @Dressed.mk text 0 0 [] (by simp)

/-- The text without the brackets at its end. -/
def unclosed (text : List Char) : List Char := (text.reverse.dropWhile (· == ']')).reverse

theorem bareAddress_eq (text : List Char) :
    bareAddress text = (unclosed (text.dropWhile (· == '['))).takeWhile (· != '%') := rfl

/-- A run of one character. -/
theorem takeWhile_eq_replicate (mark : Char) (text : List Char) :
    ∃ count, text.takeWhile (· == mark) = List.replicate count mark := by
  refine ⟨_, List.eq_replicate_of_mem fun char member => ?_⟩
  simpa using List.mem_takeWhile_imp member

/-- Where something stands in front that is no bracket, only what is behind it is stripped. -/
theorem unclosed_append {front : List Char} (bracketless : ']' ∉ front) (back : List Char) :
    unclosed (front ++ back) = front ++ unclosed back := by
  -- From the end, the brackets that are stripped end before the last character in front.
  have kept : front.reverse.dropWhile (· == ']') = front.reverse := by
    cases reversed : front.reverse with
    | nil => rfl
    | cons last rest =>
      apply List.dropWhile_cons_of_neg
      intro bracket
      apply bracketless
      rw [← List.mem_reverse, reversed, ← beq_iff_eq.mp bracket]
      exact List.mem_cons_self
  unfold unclosed
  rw [List.reverse_append, List.dropWhile_append, kept]
  split
  next empty => simp [List.isEmpty_iff.mp empty]
  next => simp

theorem unclosed_replicate (count : Nat) : unclosed (List.replicate count ']') = [] := by
  simp [unclosed]

theorem exists_closing (text : List Char) : ∃ count, text = unclosed text ++ List.replicate count ']' := by
  obtain ⟨count, run⟩ := takeWhile_eq_replicate ']' text.reverse
  refine ⟨count, ?_⟩
  have parts := congrArg List.reverse (List.takeWhile_append_dropWhile (p := (· == ']')) (l := text.reverse))
  rw [run, List.reverse_append, List.reverse_reverse, List.reverse_replicate] at parts
  exact parts.symm

/-- Every text is what is left of it when it is stripped, dressed again. -/
theorem dressed_bareAddress (text : List Char) : Dressed (bareAddress text) text := by
  obtain ⟨opening, brackets⟩ := takeWhile_eq_replicate '[' text
  obtain ⟨closing, closed⟩ := exists_closing (text.dropWhile (· == '['))
  have zone : ∀ char ∈ ((unclosed (text.dropWhile (· == '['))).dropWhile (· != '%')).head?, char = '%' := by
    intro char first
    -- What is cut off starts where the first percent sign is.
    have stopped := List.head?_dropWhile_not (· != '%') (unclosed (text.dropWhile (· == '[')))
    rw [first] at stopped
    simpa using stopped
  have dressed := @Dressed.mk (bareAddress text) opening closing _ zone
  rwa [bareAddress_eq, ← List.append_assoc (List.takeWhile _ _), List.takeWhile_append_dropWhile, ← closed, ← brackets,
    List.takeWhile_append_dropWhile] at dressed

theorem bareAddress_of_dressed {bare text : List Char} (present : bare ≠ []) (plain : ∀ char ∈ bare, isPlain char = true)
    (dressed : Dressed bare text) : bareAddress text = bare := by
  have foreign (mark : Char) (other : isPlain mark = false) : mark ∉ bare := by
    intro member
    rw [plain mark member] at other
    cases other
  cases dressed with
  | @mk opening closing zone zoned =>
    have opened : (List.replicate opening '[' ++ (bare ++ (zone ++ List.replicate closing ']'))).span (· == '[') =
        (List.replicate opening '[', bare ++ (zone ++ List.replicate closing ']')) := by
      apply span_append_of_stop
      · intro char member
        exact beq_iff_eq.mpr (List.eq_of_mem_replicate member)
      · intro char first
        rw [List.head?_append_of_ne_nil _ present] at first
        have other := foreign '[' (by decide)
        exact beq_eq_false_iff_ne.mpr fun bracket => other (bracket ▸ List.mem_of_mem_head? first)
    -- What the brackets at the end leave of the zone still starts with its percent sign.
    have behind : ∀ char ∈ (unclosed (zone ++ List.replicate closing ']')).head?, char = '%' := by
      cases zone with
      | nil => simp [unclosed_replicate]
      | cons mark rest =>
        obtain rfl := zoned mark rfl
        rw [← List.singleton_append, List.append_assoc, unclosed_append (by decide)]
        simp
    have unzoned : (bare ++ unclosed (zone ++ List.replicate closing ']')).span (· != '%') =
        (bare, unclosed (zone ++ List.replicate closing ']')) := by
      apply span_append_of_stop
      · intro char member
        exact bne_iff_ne.mpr fun percent => foreign '%' (by decide) (percent ▸ member)
      · intro char first
        simp [behind char first]
    rw [List.span_eq_takeWhile_dropWhile, Prod.mk.injEq] at opened unzoned
    rw [bareAddress_eq, opened.2, unclosed_append (foreign ']' (by decide)), unzoned.1]

/-! ## Local texts -/

/-- What a text announces is found under any brackets and before any zone, and there is no second reading of it. -/
theorem announced?_eq_some_iff {text : String} {canonical : Address} :
    announced? text = some canonical ↔
      ∃ bare address, Dressed bare text.toList ∧ Spells bare address ∧ address.canonical = canonical := by
  unfold announced?
  rw [Option.map_eq_some_iff]
  constructor
  · rintro ⟨address, read, same⟩
    exact ⟨_, address, dressed_bareAddress _, ofChars?_eq_some_iff.mp read, same⟩
  · rintro ⟨bare, address, dressed, spells, same⟩
    refine ⟨address, ?_, same⟩
    rw [bareAddress_of_dressed spells.ne_nil spells.isPlain dressed]
    exact ofChars?_eq_some_iff.mpr spells

/-- A text is local exactly if it is an address of a host of the interfaces, in brackets or not and with a zone or not. -/
theorem isLocal_eq_true_iff {interfaces : Interfaces} {text : String} :
    interfaces.isLocal text = true ↔ ∃ own bare address, interfaces = .readable own ∧ Dressed bare text.toList ∧
      Spells bare address ∧ ∃ held ∈ own, held.canonical = address.canonical := by
  constructor
  · intro isLocal
    unfold Interfaces.isLocal at isLocal
    split at isLocal
    next own canonical announced =>
      obtain ⟨bare, address, dressed, spells, same⟩ := announced?_eq_some_iff.mp announced
      obtain ⟨held, member, equal⟩ := List.any_eq_true.mp isLocal
      exact ⟨own, bare, address, rfl, dressed, spells, held, member, (beq_iff_eq.mp equal).trans same.symm⟩
    next => cases isLocal
  · rintro ⟨own, bare, address, readable, dressed, spells, held, member, same⟩
    have announced := announced?_eq_some_iff.mpr ⟨bare, address, dressed, spells, rfl⟩
    simp only [readable, Interfaces.isLocal, announced, List.any_eq_true, beq_iff_eq]
    exact ⟨held, member, same⟩

/-- The forms in which an address is announced: alone, with a zone, in brackets, and with both. -/
def forms (text zone : String) : List String :=
  [text, text ++ "%" ++ zone, "[" ++ text ++ "]", "[" ++ text ++ "%" ++ zone ++ "]"]

theorem dressed_of_mem_forms {text zone form : String} (member : form ∈ forms text zone) :
    Dressed text.toList form.toList := by
  have unzoned : ∀ char ∈ ([] : List Char).head?, char = '%' := by simp
  have zoned : ∀ char ∈ ('%' :: zone.toList).head?, char = '%' := by simp
  simp only [forms, List.mem_cons, List.not_mem_nil, or_false] at member
  rcases member with rfl | rfl | rfl | rfl
  · exact dressed_self form.toList
  · simpa using @Dressed.mk text.toList 0 0 _ zoned
  · simpa using @Dressed.mk text.toList 1 1 _ unzoned
  · simpa using @Dressed.mk text.toList 1 1 _ zoned

/-- However an address is announced, the verdict is that on the address: the reader takes it for an address exactly if it
spells one, and then it is local, with a zone and brackets or without, exactly if an interface has an address with the same
canonical form, that is, the same address or one that maps it or that it maps. A text that is no address when it is stripped
is not local, and nothing is while the interfaces cannot be read. -/
theorem locality_goes_by_address (interfaces : Interfaces) (text : String) :
    (∀ address, Address.ofText? text = some address ↔ Spells text.toList address) ∧
    (∀ address, Address.ofText? text = some address → ∀ zone, ∀ form ∈ forms text zone,
      (interfaces.isLocal form = true ↔
        ∃ own, interfaces = .readable own ∧ ∃ held ∈ own, held.canonical = address.canonical)) ∧
    (∀ left right : Address, left.canonical = right.canonical ↔ left.SameHost right) ∧
    ((∀ address, ¬ Spells (bareAddress text.toList) address) → interfaces.isLocal text = false) ∧
    ∀ reason, interfaces = .unreadable reason → interfaces.isLocal text = false := by
  refine ⟨fun address => ofChars?_eq_some_iff, ?_, fun left right => Address.canonical_eq_iff, ?_, ?_⟩
  · intro address read zone form member
    -- All the forms of a text are dressings of it, and so is what any other reading of them starts from.
    have spells : Spells text.toList address := ofChars?_eq_some_iff.mp read
    have dressed := dressed_of_mem_forms member
    rw [isLocal_eq_true_iff]
    constructor
    · rintro ⟨own, bare, other, readable, also, reads, held⟩
      -- The form has one stripped text, and that is read in one way.
      have same : bare = text.toList := by
        rw [← bareAddress_of_dressed reads.ne_nil reads.isPlain also,
          bareAddress_of_dressed spells.ne_nil spells.isPlain dressed]
      rw [same] at reads
      have equal : some other = some address := (ofChars?_eq_some_iff.mpr reads).symm.trans read
      cases equal
      exact ⟨own, readable, held⟩
    · rintro ⟨own, readable, held⟩
      exact ⟨own, text.toList, address, readable, dressed, spells, held⟩
  · intro unspelt
    rw [Bool.eq_false_iff]
    intro isLocal
    obtain ⟨own, bare, address, _, dressed, spells, _⟩ := isLocal_eq_true_iff.mp isLocal
    rw [← bareAddress_of_dressed spells.ne_nil spells.isPlain dressed] at spells
    exact unspelt address spells
  · intro reason unreadable
    rw [Bool.eq_false_iff]
    intro isLocal
    obtain ⟨own, _, _, readable, _⟩ := isLocal_eq_true_iff.mp isLocal
    rw [unreadable] at readable
    cases readable

theorem locality_goes_by_address_mixed :
    let mixed : Interfaces := .readable [.v4 #v[192, 168, 1, 10], .v6 (Address.mapping #v[10, 0, 0, 2])]
    (Address.ofText? "::ffff:192.168.1.10" = some (.v6 (Address.mapping #v[192, 168, 1, 10])) ∧
      mixed.isLocal ("[" ++ "::ffff:192.168.1.10" ++ "%" ++ "eth%0]" ++ "]") = true) ∧
    (Address.ofText? "10.0.0.2" = some (.v4 #v[10, 0, 0, 2]) ∧ mixed.isLocal "10.0.0.2" = true) ∧
    mixed.isLocal "/dev/ttyACM0" = false ∧
    (Interfaces.unreadable "permission denied").isLocal "10.0.0.2" = false := by
  intro mixed
  refine ⟨⟨by decide, ?_⟩, ⟨by decide, ?_⟩, ?_, ?_⟩
  · have dressed : "[" ++ "::ffff:192.168.1.10" ++ "%" ++ "eth%0]" ++ "]" ∈ forms "::ffff:192.168.1.10" "eth%0]" := by
      simp [forms]
    have found := (locality_goes_by_address mixed "::ffff:192.168.1.10").2.1
      (.v6 (Address.mapping #v[192, 168, 1, 10])) (by decide) "eth%0]" _ dressed
    exact found.mpr ⟨_, rfl, _, List.mem_cons_self, rfl⟩
  · have found := (locality_goes_by_address mixed "10.0.0.2").2.1 (.v4 #v[10, 0, 0, 2]) (by decide) ""
      _ List.mem_cons_self
    exact found.mpr ⟨_, rfl, _, List.mem_cons_of_mem _ List.mem_cons_self, Address.canonical_mapping _⟩
  · apply (locality_goes_by_address mixed "/dev/ttyACM0").2.2.2.1
    intro address spells
    have unread : Address.ofChars? (bareAddress "/dev/ttyACM0".toList) = none := by decide
    rw [ofChars?_eq_some_iff.mpr spells] at unread
    cases unread
  · exact (locality_goes_by_address (.unreadable "permission denied") "10.0.0.2").2.2.2.2 _ rfl

end Discovery.Net
