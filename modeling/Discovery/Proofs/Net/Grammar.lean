import Discovery.Net.Reader
import Discovery.Proofs.Decimal.Runs
import Mathlib.Data.List.Induction
import Mathlib.Data.List.TakeWhile

/-!
# The texts of addresses

Which texts spell which address, without saying how they are read: an octet is a number below 256 in decimal digits, a group
one below 65536 in hexadecimal ones, and an address puts them together with dots, colons and at most one gap. The reader is
sound and complete for this: it reads a whole text as an address exactly if the text spells that address.
-/
namespace Discovery.Net

open Decimal (hexTotal isDigit isHexDigit takeDigits)

/-! ## Spelling -/

/-- Up to three decimal digits. Only zero itself starts with a zero. -/
structure SpellsOctet (run : List Char) (octet : UInt8) : Prop where
  present : run ≠ []
  digits : ∀ char ∈ run, isDigit char = true
  short : run.length ≤ 3
  plain : run.head? = some '0' → run.length ≤ 1
  value : Decimal.value run = octet.toNat

/-- Octets with dots between them. -/
inductive SpellsOctets : List Char → List UInt8 → Prop
  | last {run : List Char} {octet : UInt8} : SpellsOctet run octet → SpellsOctets run [octet]
  | more {run rest : List Char} {octet : UInt8} {octets : List UInt8} : SpellsOctet run octet → SpellsOctets rest octets →
      SpellsOctets (run ++ '.' :: rest) (octet :: octets)

/-- Up to four hexadecimal digits. -/
structure SpellsGroup (run : List Char) (group : UInt16) : Prop where
  present : run ≠ []
  digits : ∀ char ∈ run, isHexDigit char = true
  short : run.length ≤ 4
  value : hexTotal run = group.toNat

/-- The groups in whose place octets can stand. -/
def pairs : List UInt8 → List UInt16
  | high :: low :: rest => Address.ofBytes high low :: pairs rest
  | _ => []

/-- Groups with colons between them. The last two may be written as the four octets of a dotted address, and the flag says
whether they are. -/
inductive SpellsGroups : List Char → List UInt16 → Bool → Prop
  | last {run : List Char} {group : UInt16} : SpellsGroup run group → SpellsGroups run [group] false
  | dotted {text : List Char} {octets : Vector UInt8 4} : SpellsOctets text octets.toList →
      SpellsGroups text (pairs octets.toList) true
  | more {run rest : List Char} {group : UInt16} {groups : List UInt16} {dotted : Bool} : SpellsGroup run group →
      SpellsGroups rest groups dotted → SpellsGroups (run ++ ':' :: rest) (group :: groups) dotted

/-- What stands on one side of a gap: groups, or nothing. -/
def SpellsSide (text : List Char) (groups : List UInt16) (dotted : Bool) : Prop :=
  (text = [] ∧ groups = [] ∧ dotted = false) ∨ SpellsGroups text groups dotted

/-- Eight groups, or two colons in the place of one or more groups that are zero. -/
inductive SpellsV6 : List Char → Vector UInt16 8 → Prop
  | whole {text : List Char} {groups : Vector UInt16 8} {dotted : Bool} : SpellsGroups text groups.toList dotted →
      SpellsV6 text groups
  | gap {front behind : List Char} {before after : List UInt16} {dotted : Bool} {zeros : Nat} {groups : Vector UInt16 8} :
      SpellsSide front before false → SpellsSide behind after dotted → 0 < zeros →
      before ++ List.replicate zeros 0 ++ after = groups.toList → SpellsV6 (front ++ ':' :: ':' :: behind) groups

inductive Spells : List Char → Address → Prop
  | v4 {text : List Char} {octets : Vector UInt8 4} : SpellsOctets text octets.toList → Spells text (.v4 octets)
  | v6 {text : List Char} {groups : Vector UInt16 8} : SpellsV6 text groups → Spells text (.v6 groups)

/-! ## Octets -/

theorem readOctet_of_spells {run rest : List Char} {octet : UInt8} (spells : SpellsOctet run octet)
    (stop : ∀ char ∈ rest.head?, isDigit char = false) : readOctet (run ++ rest) = some (octet, rest) := by
  have taken : takeDigits (run ++ rest) = (run, rest) := span_append_of_stop spells.digits stop
  have small : octet.toNat < 256 := octet.toNat_lt
  have short := spells.short
  simp only [readOctet, taken, spells.value]
  -- Each of the four reasons to refuse the digits is one that an octet rules out.
  rw [if_neg]
  · simp
  · rintro (empty | long | ⟨long, zero⟩ | large)
    · exact spells.present (by simpa using empty)
    · omega
    · exact absurd (spells.plain zero) (by omega)
    · omega

theorem spells_of_readOctet {text rest : List Char} {octet : UInt8} (read : readOctet text = some (octet, rest)) :
    ∃ run, SpellsOctet run octet ∧ text = run ++ rest := by
  simp only [readOctet, takeDigits, List.span_eq_takeWhile_dropWhile] at read
  split at read
  next => cases read
  next sound =>
    cases read
    simp only [not_or, not_and, Nat.not_lt] at sound
    obtain ⟨present, short, plain, small⟩ := sound
    refine ⟨text.takeWhile isDigit, ?_, List.takeWhile_append_dropWhile.symm⟩
    constructor
    · simpa using present
    · intro char member
      exact List.mem_takeWhile_imp member
    · exact short
    · intro zero
      exact Nat.not_lt.mp fun long => plain long zero
    · simp only [UInt8.toNat_ofNat']
      omega

theorem exists_octets (octets : Vector UInt8 4) : ∃ a b c d, octets = #v[a, b, c, d] := by
  refine ⟨octets[0], octets[1], octets[2], octets[3], ?_⟩
  ext index within
  obtain rfl | rfl | rfl | rfl : index = 0 ∨ index = 1 ∨ index = 2 ∨ index = 3 := by omega
  all_goals rfl

theorem readV4_of_spells {text rest : List Char} {octets : Vector UInt8 4} (spells : SpellsOctets text octets.toList)
    (stop : ∀ char ∈ rest.head?, isDigit char = false) : readV4 (text ++ rest) = some (octets, rest) := by
  have marked {run : List Char} {octet : UInt8} (spells : SpellsOctet run octet) (behind : List Char) :
      readOctet (run ++ '.' :: behind) = some (octet, '.' :: behind) :=
    readOctet_of_spells spells (by simp [isDigit])
  obtain ⟨a, b, c, d, rfl⟩ := exists_octets octets
  -- Four octets leave no choice: three of them have a dot behind them, and the last one has none.
  obtain _ | ⟨first, _ | ⟨second, _ | ⟨third, fourth | ⟨_, further⟩⟩⟩⟩ := spells
  case last =>
    simp only [List.append_assoc, List.cons_append, readV4, marked first, marked second, marked third,
      readOctet_of_spells fourth stop, readMark, if_pos, Option.bind_eq_bind, Option.bind_some]
    rfl
  case more => cases further

theorem readMark_eq_some {mark : Char} {text rest : List Char} (read : readMark mark text = some ((), rest)) :
    text = mark :: rest := by
  cases text with
  | nil => cases read
  | cons char behind =>
    simp only [readMark] at read
    split at read
    next same =>
      cases read
      rw [same]
    next => cases read

theorem spells_of_readV4 {text rest : List Char} {octets : Vector UInt8 4} (read : readV4 text = some (octets, rest)) :
    ∃ front, SpellsOctets front octets.toList ∧ text = front ++ rest := by
  simp only [readV4, Option.bind_eq_bind, Option.bind_eq_some_iff, Prod.exists] at read
  obtain ⟨a, afterA, readA, ⟨⟩, text, markA, b, afterB, readB, ⟨⟩, text, markB, c, afterC, readC, ⟨⟩, text, markC, d, afterD,
    readD, made⟩ := read
  cases made
  obtain ⟨first, isFirst, rfl⟩ := spells_of_readOctet readA
  obtain ⟨second, isSecond, rfl⟩ := spells_of_readOctet readB
  obtain ⟨third, isThird, rfl⟩ := spells_of_readOctet readC
  obtain ⟨fourth, isFourth, rfl⟩ := spells_of_readOctet readD
  rw [readMark_eq_some markA, readMark_eq_some markB, readMark_eq_some markC]
  refine ⟨first ++ '.' :: (second ++ '.' :: (third ++ '.' :: fourth)), ?_, by simp⟩
  exact .more isFirst (.more isSecond (.more isThird (.last isFourth)))

/-- Where no dot follows the first digits, there is no dotted address. -/
theorem readV4_eq_none {text : List Char} (dotless : ∀ char ∈ (text.dropWhile isDigit).head?, char ≠ '.') :
    readV4 text = none := by
  rw [Option.eq_none_iff_forall_ne_some]
  intro ⟨octets, rest⟩ read
  -- If there were one, its first octet would end with a dot.
  obtain ⟨front, spells, rfl⟩ := spells_of_readV4 read
  obtain ⟨a, b, c, d, rfl⟩ := exists_octets octets
  cases spells with
  | more first _ =>
    apply dotless '.' _ rfl
    simp [List.dropWhile_append_of_pos first.digits, isDigit]

/-! ## Groups -/

/-- What may stand behind a group: nothing, or a colon. -/
def Bounded (rest : List Char) : Prop := ∀ char ∈ rest.head?, char = ':'

theorem bounded_nil : Bounded [] := by simp [Bounded]

theorem bounded_colon (rest : List Char) : Bounded (':' :: rest) := by simp [Bounded]

theorem Bounded.stop {rest : List Char} (bounded : Bounded rest) {kind : Char → Bool} (other : kind ':' = false) :
    ∀ char ∈ rest.head?, kind char = false := by
  intro char first
  rw [bounded char first]
  exact other

theorem readGroup_of_spells {run rest : List Char} {group : UInt16} (spells : SpellsGroup run group)
    (bounded : Bounded rest) : readGroup (run ++ rest) = some (group, rest) := by
  have taken : (run ++ rest).span isHexDigit = (run, rest) :=
    span_append_of_stop spells.digits (bounded.stop (by decide))
  have value := spells.value
  have short := spells.short
  unfold isHexDigit at taken
  unfold hexTotal at value
  simp only [readGroup, taken, value]
  rw [if_neg]
  · simp
  · rintro (empty | long)
    · exact spells.present (by simpa using empty)
    · omega

theorem hexValue?_lt {char : Char} (digit : isHexDigit char = true) : (Decimal.hexValue? char).getD 0 < 16 := by
  have bounds {least greatest : Char} (within : (least ≤ char && char ≤ greatest) = true) :
      least.toNat ≤ char.toNat ∧ char.toNat ≤ greatest.toNat := by
    simpa [Char.le_def, UInt32.le_iff_toNat_le] using within
  -- A digit lies in one of the three ranges, each of which has its own offset.
  unfold isHexDigit Decimal.hexValue? at digit
  unfold Decimal.hexValue?
  split
  next decimal =>
    have small := bounds decimal
    simp at small ⊢
    omega
  next =>
  split
  next lower =>
    have small := bounds lower
    simp at small ⊢
    omega
  next =>
  split
  next upper =>
    have small := bounds upper
    simp at small ⊢
    omega
  next => simp_all

theorem hexTotal_lt {run : List Char} (digits : ∀ char ∈ run, isHexDigit char = true) :
    hexTotal run < 16 ^ run.length := by
  -- The last digit is the one that the rest is shifted for.
  induction run using List.reverseRecOn with
  | nil => simp [hexTotal]
  | append_singleton run char ih =>
    have front := ih fun other member => digits other (List.mem_append_left [char] member)
    have last := hexValue?_lt (digits char (List.mem_append_right run List.mem_cons_self))
    rw [Decimal.hexTotal_append_singleton, List.length_append, List.length_singleton, Nat.pow_succ]
    omega

theorem spells_of_readGroup {text rest : List Char} {group : UInt16} (read : readGroup text = some (group, rest)) :
    ∃ run, SpellsGroup run group ∧ text = run ++ rest := by
  simp only [readGroup, List.span_eq_takeWhile_dropWhile] at read
  change (if (text.takeWhile isHexDigit).isEmpty ∨ 4 < (text.takeWhile isHexDigit).length then none
    else some (UInt16.ofNat (hexTotal (text.takeWhile isHexDigit)), text.dropWhile isHexDigit)) = _ at read
  split at read
  next => cases read
  next sound =>
    cases read
    simp only [not_or, Nat.not_lt] at sound
    obtain ⟨present, short⟩ := sound
    have digits : ∀ char ∈ text.takeWhile isHexDigit, isHexDigit char = true := fun _ => List.mem_takeWhile_imp
    -- Four digits fit, so that the group has the value that they have and not a remainder of it.
    have small : hexTotal (text.takeWhile isHexDigit) < 16 ^ 4 := by
      apply Nat.lt_of_lt_of_le (hexTotal_lt digits)
      exact Nat.pow_le_pow_right (by decide) short
    refine ⟨text.takeWhile isHexDigit, ?_, List.takeWhile_append_dropWhile.symm⟩
    constructor
    · simpa using present
    · exact digits
    · exact short
    · exact (UInt16.toNat_ofNat_of_lt' small).symm

/-- A group is not taken for the first octet of a dotted address. -/
theorem readV4_of_group {run rest : List Char} {group : UInt16} (spells : SpellsGroup run group) (bounded : Bounded rest) :
    readV4 (run ++ rest) = none := by
  apply readV4_eq_none
  intro char first
  have kept : rest.dropWhile isDigit = rest := by
    cases rest with
    | nil => rfl
    | cons colon tail => simp [bounded colon rfl, isDigit]
  have colonless : ':' ≠ '.' := by decide
  rw [List.dropWhile_append, kept] at first
  split at first
  next => rwa [bounded char first]
  next =>
    rw [List.head?_append, Option.mem_def, Option.or_eq_some_iff] at first
    rcases first with inside | ⟨_, behind⟩
    · -- What is left of the digits of a group is hexadecimal.
      have hex := spells.digits char ((List.dropWhile_sublist isDigit).subset (List.mem_of_mem_head? inside))
      rintro rfl
      exact absurd hex (by decide)
    · rwa [bounded char behind]

/-- No group follows: the text is at its end or at a gap. -/
inductive Stops : List Char → Prop
  | ended : Stops []
  | gap (rest : List Char) : Stops (':' :: ':' :: rest)

theorem Stops.bounded {rest : List Char} (stops : Stops rest) : Bounded rest := by
  cases stops with
  | ended => exact bounded_nil
  | gap rest => exact bounded_colon _

theorem readV4_colon (rest : List Char) : readV4 (':' :: rest) = none :=
  readV4_eq_none (by simp [isDigit])

theorem readGroup_colon (rest : List Char) : readGroup (':' :: rest) = none := by
  simp [readGroup, List.span_eq_takeWhile_dropWhile, Decimal.hexValue?, isDigit]

/-- Where no group follows, none is read, whatever has been read before. -/
theorem readGroups_of_stops {rest : List Char} (stops : Stops rest) (limit : Nat) (first : Bool) :
    readGroups limit first rest = ([], false, rest) := by
  have empty : readV4 [] = none := rfl
  cases limit with
  | zero => rfl
  | succ limit =>
    cases stops with
    | ended => cases first <;> simp [readGroups, readMark, empty, readGroup]
    | gap rest => cases first <;> simp [readGroups, readMark, readV4_colon, readGroup_colon]

/-- A text of groups as it stands at the start or behind other groups. -/
def headed (first : Bool) (text : List Char) : List Char := if first then text else ':' :: text

/-- Where the groups of a text start. -/
def unheaded? (first : Bool) (text : List Char) : Option (List Char) :=
  if first then some text else (readMark ':' text).map (·.2)

theorem unheaded?_headed (first : Bool) (text : List Char) : unheaded? first (headed first text) = some text := by
  cases first <;> simp [unheaded?, headed, readMark]

theorem eq_headed {first : Bool} {text groups : List Char} (starts : unheaded? first text = some groups) :
    text = headed first groups := by
  cases first with
  | true => simpa [unheaded?, headed] using starts
  | false =>
    simp only [unheaded?, Bool.false_eq_true, if_false, Option.map_eq_some_iff, Prod.exists] at starts
    obtain ⟨⟨⟩, behind, read, rfl⟩ := starts
    exact readMark_eq_some read

theorem readGroups_succ (limit : Nat) (first : Bool) (text : List Char) :
    readGroups (limit + 1) first text =
      match if limit = 0 then none else (unheaded? first text).bind readV4 with
      | some (octets, rest) => (pairs octets.toList, true, rest)
      | none =>
        match (unheaded? first text).bind readGroup with
        | some (group, rest) => (group :: (readGroups limit false rest).1, (readGroups limit false rest).2)
        | none => ([], false, text) := by
  have four (octets : Vector UInt8 4) :
      pairs octets.toList = [Address.ofBytes octets[0] octets[1], Address.ofBytes octets[2] octets[3]] := by
    obtain ⟨a, b, c, d, rfl⟩ := exists_octets octets
    rfl
  simp only [four]
  rfl

/-- All groups of a text are read if there is room for so many. -/
theorem readGroups_of_spells {text rest : List Char} {groups : List UInt16} {dotted : Bool}
    (spells : SpellsGroups text groups dotted) (stops : Stops rest) {limit : Nat} (within : groups.length ≤ limit)
    (first : Bool) : readGroups limit first (headed first (text ++ rest)) = (groups, dotted, rest) := by
  induction spells generalizing limit first with
  | last spells =>
    obtain ⟨limit, rfl⟩ : ∃ less, limit = less + 1 := Nat.exists_eq_succ_of_ne_zero (Nat.ne_of_gt within)
    rw [readGroups_succ, unheaded?_headed]
    simp only [Option.bind_some, readV4_of_group spells stops.bounded, ite_self, readGroup_of_spells spells stops.bounded,
      readGroups_of_stops stops]
  | @dotted text octets spells =>
    -- The octets take the place of two groups, so there is room for one more behind the first of them.
    obtain ⟨limit, rfl⟩ : ∃ less, limit = less + 2 := by
      obtain ⟨a, b, c, d, rfl⟩ := exists_octets octets
      exact Nat.exists_eq_add_of_le' within
    rw [readGroups_succ, unheaded?_headed, if_neg (Nat.succ_ne_zero limit)]
    simp only [Option.bind_some, readV4_of_spells spells (stops.bounded.stop (by decide))]
  | @more run text group groups dotted spells further ih =>
    obtain ⟨limit, rfl⟩ : ∃ less, limit = less + 1 := Nat.exists_eq_succ_of_ne_zero (by simp at within; omega)
    have behind := ih (Nat.le_of_succ_le_succ within) false
    have bounded := bounded_colon (text ++ rest)
    simp only [headed, Bool.false_eq_true, if_false] at behind
    rw [readGroups_succ, unheaded?_headed, List.append_assoc, List.cons_append]
    simp only [Option.bind_some, readV4_of_group spells bounded, ite_self, readGroup_of_spells spells bounded, behind]

/-- From the start of the text, or from behind other groups, the groups lead to the rest. -/
def Leads (first : Bool) (groups : List UInt16) (dotted : Bool) (text rest : List Char) : Prop :=
  (groups = [] ∧ dotted = false ∧ text = rest) ∨
    ∃ front, SpellsGroups front groups dotted ∧ text = headed first (front ++ rest)

theorem leads_nil (first : Bool) (text : List Char) : Leads first [] false text text := .inl ⟨rfl, rfl, rfl⟩

theorem Leads.cons {groups : List UInt16} {dotted : Bool} {text rest : List Char} (leads : Leads false groups dotted text rest)
    {run : List Char} {group : UInt16} (spells : SpellsGroup run group) (first : Bool) :
    Leads first (group :: groups) dotted (headed first (run ++ text)) rest := by
  right
  rcases leads with ⟨none, plain, ended⟩ | ⟨front, follow, ended⟩
  · subst none plain ended
    exact ⟨run, .last spells, rfl⟩
  · subst ended
    refine ⟨run ++ ':' :: front, .more spells follow, ?_⟩
    rw [List.append_assoc, List.cons_append]
    rfl

/-- What is read as groups spells them, and there are no more of them than there is room for. -/
theorem leads_of_readGroups {limit : Nat} {first dotted : Bool} {text rest : List Char} {groups : List UInt16}
    (read : readGroups limit first text = (groups, dotted, rest)) :
    groups.length ≤ limit ∧ Leads first groups dotted text rest := by
  induction limit generalizing first text groups with
  | zero =>
    cases read
    exact ⟨Nat.le_refl 0, leads_nil _ _⟩
  | succ limit ih =>
    rw [readGroups_succ] at read
    split at read
    next octets behind taken =>
      -- A dotted address ends the groups. It is only tried where there is room for the two that it stands for.
      split at taken
      next => cases taken
      next more =>
        cases read
        obtain ⟨start, starts, readV4⟩ := Option.bind_eq_some_iff.mp taken
        obtain ⟨front, spells, rfl⟩ := spells_of_readV4 readV4
        constructor
        · obtain ⟨a, b, c, d, rfl⟩ := exists_octets octets
          simp [pairs]
          omega
        · right
          exact ⟨front, .dotted spells, eq_headed starts⟩
    next =>
      split at read
      next group behind taken =>
        -- Behind a group, the same reader goes on with room for one less.
        obtain ⟨start, starts, readGroup⟩ := Option.bind_eq_some_iff.mp taken
        obtain ⟨run, spells, rfl⟩ := spells_of_readGroup readGroup
        cases further : readGroups limit false behind with
        | mk more result =>
          rw [further] at read
          cases read
          obtain ⟨within, leads⟩ := ih further
          rw [eq_headed starts]
          exact ⟨Nat.succ_le_succ within, leads.cons spells first⟩
      next =>
        cases read
        exact ⟨Nat.zero_le _, leads_nil _ _⟩

/-! ## Addresses of version 6 -/

theorem toGroups?_eq_some_iff {list : List UInt16} {groups : Vector UInt16 8} :
    toGroups? list = some groups ↔ list = groups.toList := by
  constructor
  · intro made
    unfold toGroups? at made
    split at made
    next =>
      cases made
      simp [Vector.toList]
    next => cases made
  · intro same
    rw [same]
    simp [toGroups?, Vector.toList]

theorem readGroups_of_side {text rest : List Char} {groups : List UInt16} {dotted : Bool}
    (spells : SpellsSide text groups dotted) (stops : Stops rest) {limit : Nat} (within : groups.length ≤ limit) :
    readGroups limit true (text ++ rest) = (groups, dotted, rest) := by
  rcases spells with ⟨none, ungrouped, plain⟩ | some
  · subst none ungrouped plain
    exact readGroups_of_stops stops limit true
  · exact readGroups_of_spells some stops within true

theorem side_of_readGroups {limit : Nat} {dotted : Bool} {text rest : List Char} {groups : List UInt16}
    (read : readGroups limit true text = (groups, dotted, rest)) :
    groups.length ≤ limit ∧ ∃ front, SpellsSide front groups dotted ∧ text = front ++ rest := by
  obtain ⟨within, ⟨none, plain, ended⟩ | ⟨front, spells, ended⟩⟩ := leads_of_readGroups read
  · exact ⟨within, [], .inl ⟨rfl, none, plain⟩, ended⟩
  · exact ⟨within, front, .inr spells, ended⟩

theorem readV6_of_spells {text : List Char} {groups : Vector UInt16 8} (spells : SpellsV6 text groups) :
    readV6 text = some (groups, []) := by
  have eight : groups.toList.length = 8 := groups.length_toList
  have made : toGroups? groups.toList = some groups := toGroups?_eq_some_iff.mpr rfl
  cases spells with
  | whole spells =>
    have read := readGroups_of_side (.inr spells) .ended (Nat.le_of_eq eight)
    rw [List.append_nil] at read
    simp [readV6, read, eight, made]
  | @gap front behind before after dotted zeros _ frontSide backSide gap sum =>
    -- The zeros that are missing from eight groups are as many as stand for the gap.
    have lengths := congrArg List.length sum
    simp only [List.length_append, List.length_replicate, eight] at lengths
    have room : before.length ≠ 8 := by omega
    have missing : 8 - before.length - after.length = zeros := by omega
    have readFront := readGroups_of_side frontSide (.gap behind) (by omega : before.length ≤ 8)
    have readBack := readGroups_of_side backSide .ended (by omega : after.length ≤ 7 - before.length)
    rw [← sum, List.append_assoc] at made
    rw [List.append_nil] at readBack
    simp [readV6, readFront, room, readMark, readBack, missing, made]

/-- What is read behind two colons completes the address if zeros fill up the gap. -/
theorem spells_of_gap {front behind rest : List Char} {before after : List UInt16} {dotted : Bool} {groups : Vector UInt16 8}
    (frontSide : SpellsSide front before false) (short : before.length < 8)
    (taken : readGroups (7 - before.length) true behind = (after, dotted, rest))
    (made : toGroups? (before ++ List.replicate (8 - before.length - after.length) 0 ++ after) = some groups) :
    ∃ back, SpellsV6 (front ++ ':' :: ':' :: back) groups ∧ behind = back ++ rest := by
  obtain ⟨room, back, backSide, ended⟩ := side_of_readGroups taken
  have gap : 0 < 8 - before.length - after.length := by omega
  exact ⟨back, .gap frontSide backSide gap (toGroups?_eq_some_iff.mp made), ended⟩

theorem spells_of_readV6 {text rest : List Char} {groups : Vector UInt16 8} (read : readV6 text = some (groups, rest)) :
    ∃ front, SpellsV6 front groups ∧ text = front ++ rest := by
  cases taken : readGroups 8 true text with
  | mk before result =>
    obtain ⟨dotted, left⟩ := result
    obtain ⟨within, front, frontSide, rfl⟩ := side_of_readGroups taken
    simp only [readV6, taken, Option.bind_eq_bind] at read
    split at read
    next eight =>
      obtain ⟨_, made, same⟩ := Option.bind_eq_some_iff.mp read
      cases same
      rw [toGroups?_eq_some_iff.mp made] at frontSide eight
      rcases frontSide with ⟨_, none, _⟩ | some
      · rw [none] at eight
        cases eight
      · exact ⟨front, .whole some, rfl⟩
    next short =>
      split at read
      next => cases read
      next plain =>
        -- Fewer than eight groups, none of them dotted: there has to be a gap.
        simp only [Option.bind_eq_some_iff, Prod.exists] at read
        obtain ⟨⟨⟩, second, firstColon, ⟨⟩, behind, secondColon, _, made, same⟩ := read
        rw [readMark_eq_some firstColon, readMark_eq_some secondColon]
        rw [Bool.not_eq_true] at plain
        rw [plain] at frontSide
        cases same
        obtain ⟨back, spells, ended⟩ := spells_of_gap frontSide (by omega) rfl made
        refine ⟨front ++ ':' :: ':' :: back, spells, ?_⟩
        rw [List.append_assoc, List.cons_append, List.cons_append, ← ended]

/-- Version 4 is tried first, and takes nothing of what is an address of version 6. -/
theorem readV4_of_spellsV6 {text : List Char} {groups : Vector UInt16 8} (spells : SpellsV6 text groups) :
    readV4 text = none := by
  cases spells with
  | @whole _ _ dotted spells =>
    -- Eight groups are neither one group nor a dotted address alone, so a colon follows the first of them.
    have eight : groups.toList.length = 8 := groups.length_toList
    generalize groups.toList = list at spells eight
    cases spells with
    | last => cases eight
    | @dotted _ octets _ =>
      obtain ⟨a, b, c, d, rfl⟩ := exists_octets octets
      cases eight
    | more first _ => exact readV4_of_group first (bounded_colon _)
  | @gap front behind before _ _ _ _ frontSide _ _ _ =>
    rcases frontSide with ⟨rfl, _, _⟩ | some
    · exact readV4_colon _
    · cases some with
      | last first => exact readV4_of_group first (bounded_colon _)
      | more first _ =>
        rw [List.append_assoc]
        exact readV4_of_group first (bounded_colon _)

theorem spells_of_readAddress {text rest : List Char} {address : Address}
    (read : readAddress text = some (address, rest)) : ∃ front, Spells front address ∧ text = front ++ rest := by
  unfold readAddress at read
  split at read
  next octets behind readV4 =>
    cases read
    obtain ⟨front, spells, ended⟩ := spells_of_readV4 readV4
    exact ⟨front, .v4 spells, ended⟩
  next =>
    obtain ⟨⟨groups, behind⟩, readV6, same⟩ := Option.map_eq_some_iff.mp read
    cases same
    obtain ⟨front, spells, ended⟩ := spells_of_readV6 readV6
    exact ⟨front, .v6 spells, ended⟩

theorem readAddress_of_spells {text : List Char} {address : Address} (spells : Spells text address) :
    readAddress text = some (address, []) := by
  cases spells with
  | v4 spells =>
    have read := @readV4_of_spells _ [] _ spells (by simp)
    rw [List.append_nil] at read
    simp only [readAddress, read]
  | v6 spells => simp only [readAddress, readV4_of_spellsV6 spells, readV6_of_spells spells, Option.map_some]

/-- A text is read as an address exactly if it spells that address. -/
theorem ofChars?_eq_some_iff {text : List Char} {address : Address} :
    Address.ofChars? text = some address ↔ Spells text address := by
  constructor
  · intro read
    unfold Address.ofChars? at read
    split at read
    next found =>
      cases read
      obtain ⟨front, spells, rfl⟩ := spells_of_readAddress found
      rw [List.append_nil]
      exact spells
    next => cases read
  · intro spells
    simp only [Address.ofChars?, readAddress_of_spells spells]

/-! ## Characters -/

/-- Hexadecimal digits, dots and colons. -/
def isPlain (char : Char) : Bool := isHexDigit char || char == '.' || char == ':'

theorem isPlain_of_isHexDigit {char : Char} (digit : isHexDigit char = true) : isPlain char = true := by
  simp [isPlain, digit]

theorem SpellsOctets.isPlain {text : List Char} {octets : List UInt8} (spells : SpellsOctets text octets) :
    ∀ char ∈ text, isPlain char = true := by
  have digits {run : List Char} {octet : UInt8} (spells : SpellsOctet run octet) : ∀ char ∈ run, Net.isPlain char = true :=
    fun char member => isPlain_of_isHexDigit (Decimal.isHexDigit_of_isDigit (spells.digits char member))
  induction spells with
  | last octet => exact digits octet
  | more octet _ ih => exact List.forall_mem_append.mpr ⟨digits octet, List.forall_mem_cons.mpr ⟨by decide, ih⟩⟩

theorem SpellsGroups.isPlain {text : List Char} {groups : List UInt16} {dotted : Bool}
    (spells : SpellsGroups text groups dotted) : ∀ char ∈ text, isPlain char = true := by
  have digits {run : List Char} {group : UInt16} (spells : SpellsGroup run group) :
      ∀ char ∈ run, Net.isPlain char = true := fun char member => isPlain_of_isHexDigit (spells.digits char member)
  induction spells with
  | last group => exact digits group
  | dotted octets => exact octets.isPlain
  | more group _ ih => exact List.forall_mem_append.mpr ⟨digits group, List.forall_mem_cons.mpr ⟨by decide, ih⟩⟩

theorem SpellsSide.isPlain {text : List Char} {groups : List UInt16} {dotted : Bool}
    (spells : SpellsSide text groups dotted) : ∀ char ∈ text, isPlain char = true := by
  rcases spells with ⟨none, _, _⟩ | some
  · rw [none]
    exact List.forall_mem_nil _
  · exact some.isPlain

/-- No text of an address holds a bracket, a percent sign or any other foreign character. -/
theorem Spells.isPlain {text : List Char} {address : Address} (spells : Spells text address) :
    ∀ char ∈ text, isPlain char = true := by
  cases spells with
  | v4 octets => exact octets.isPlain
  | v6 spells =>
    cases spells with
    | whole groups => exact groups.isPlain
    | gap front behind _ _ =>
      have colons : ∀ char ∈ [':', ':'], Net.isPlain char = true := by simp [Net.isPlain]
      exact List.forall_mem_append.mpr ⟨front.isPlain, List.forall_mem_append.mpr ⟨colons, behind.isPlain⟩⟩

theorem Spells.ne_nil {text : List Char} {address : Address} (spells : Spells text address) : text ≠ [] := by
  intro empty
  subst empty
  have unread : Address.ofChars? [] = none := rfl
  rw [ofChars?_eq_some_iff.mpr spells] at unread
  cases unread

end Discovery.Net
