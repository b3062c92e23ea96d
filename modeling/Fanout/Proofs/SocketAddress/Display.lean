import Mathlib.Data.List.Basic
import Fanout.Proofs.SocketAddress.Scan

/-!
The canonical text of an address is read as that address. What stands for an IPv6 address depends on
its groups: an embedded IPv4 address, a double colon in place of the longest run of zeros, or all eight
groups; each of them is read back (`scanV6_groupsText`).
-/

namespace Fanout.SocketAddress

/-- What every address that can be read keeps to. -/
def IsValid : SocketAddress → Prop
  | .v4 octets port => octets.length = 4 ∧ (∀ o ∈ octets, o ≤ 255) ∧ port ≤ 0xFFFF
  | .v6 groups zone port =>
    groups.length = 8 ∧ (∀ g ∈ groups, g ≤ 0xFFFF) ∧ zone ≤ 0xFFFFFFFF ∧ port ≤ 0xFFFF

instance (a : SocketAddress) : Decidable a.IsValid :=
  match a with
  | .v4 octets port =>
    inferInstanceAs (Decidable (octets.length = 4 ∧ (∀ o ∈ octets, o ≤ 255) ∧ port ≤ 0xFFFF))
  | .v6 groups zone port =>
    inferInstanceAs (Decidable (groups.length = 8 ∧ (∀ g ∈ groups, g ≤ 0xFFFF) ∧
      zone ≤ 0xFFFFFFFF ∧ port ≤ 0xFFFF))

/-! ### Runs of zeros -/

theorem take_of_le_zerosAtFront {n : Nat} {groups : List Nat} (h : n ≤ zerosAtFront groups) :
    groups.take n = List.replicate n 0 := by
  induction n generalizing groups with
  | zero => rfl
  | succ n ih =>
    cases groups with
    | nil => exact absurd h (by simp [zerosAtFront])
    | cons g groups =>
      by_cases hg : g = 0
      · subst hg
        rw [List.take_succ_cons, List.replicate_succ, ih (by simpa [zerosAtFront] using h)]
      · exact absurd h (by simp [zerosAtFront, hg])

theorem longestZeros_le (groups : List Nat) :
    (longestZeros groups).2 ≤ zerosAtFront (groups.drop (longestZeros groups).1) := by
  refine List.foldlRecOn (motive := fun run : Nat × Nat => run.2 ≤ zerosAtFront (groups.drop run.1)) _ _
    (Nat.zero_le _) fun run hrun i _ => ?_
  dsimp only
  split
  · exact Nat.le_refl _
  · exact hrun

/-- The run of zeros that may be left out is one. -/
theorem eq_append_longestZeros {groups : List Nat} {start length : Nat}
    (h : longestZeros groups = (start, length)) :
    groups = groups.take start ++ List.replicate length 0 ++ groups.drop (start + length) := by
  have hzeros := longestZeros_le groups
  rw [h] at hzeros
  rw [← take_of_le_zerosAtFront hzeros, List.append_assoc, ← List.drop_drop,
    List.take_append_drop, List.take_append_drop]

/-! ### IPv6 addresses -/

section Groups

variable {groups : List Nat} {rest : List Char}

/-- What a double colon stands for is told by how many groups there are around it. -/
theorem scanV6_double {text after : List Char} {front : List Nat} {back : Groups}
    (hfront : scanGroups true 8 text = ⟨front, false, ':' :: ':' :: after⟩)
    (hshort : front.length ≠ 8) (hback : scanGroups true (8 - (front.length + 1)) after = back) :
    scanV6 text =
      some (front ++ List.replicate (8 - front.length - back.groups.length) 0 ++ back.groups,
        back.rest) := by
  rw [scanV6, hfront]
  simp only [if_neg hshort, Bool.false_eq_true, if_false, scanChar_self, Option.bind_eq_bind,
    Option.bind_some, hback]

/-- Groups around a double colon that stands for some zeros. -/
theorem scanV6_compressed {front back : List Nat} {zeros : Nat}
    (hfront : ∀ g ∈ front, g ≤ 0xFFFF) (hback : ∀ g ∈ back, g ≤ 0xFFFF)
    (hzeros : 0 < zeros) (hlength : front.length + zeros + back.length = 8)
    (hrest : AfterGroups rest) :
    scanV6 ((colons front).toList ++ ':' :: ':' :: ((colons back).toList ++ rest)) =
      some (front ++ List.replicate zeros 0 ++ back, rest) := by
  have hleft : 8 - front.length - back.length = zeros := by omega
  rw [scanV6_double (scanGroups_colons hfront (by omega) (.inl ⟨_, rfl⟩)) (by omega)
    (scanGroups_colons hback (by omega) hrest)]
  rw [hleft]

theorem scanV6_full (hgs : ∀ g ∈ groups, g ≤ 0xFFFF) (hlength : groups.length = 8)
    (hrest : AfterGroups rest) :
    scanV6 ((colons groups).toList ++ rest) = some (groups, rest) := by
  simp [scanV6, scanGroups_colons hgs hlength.le hrest, hlength]

/-- An embedded IPv4 address behind a group of ones. -/
theorem scanV6_mapped {a b : Nat} (ha : a ≤ 0xFFFF) (hb : b ≤ 0xFFFF) (hrest : AfterGroups rest) :
    scanV6 ("::ffff:".toList ++ ((dotted [a / 256, a % 256, b / 256, b % 256]).toList ++ rest)) =
      some ([0, 0, 0, 0, 0, 0xFFFF, a, b], rest) := by
  set octets := (dotted [a / 256, a % 256, b / 256, b % 256]).toList ++ rest with hoctets
  have hv4 : scanV4 octets = some ([a / 256, a % 256, b / 256, b % 256], rest) :=
    scanV4_dotted (by omega) (by omega) (by omega) (by omega) (hrest.noDigit 10)
  have htwo : scanGroups false 6 (':' :: octets) =
      ⟨[256 * (a / 256) + a % 256, 256 * (b / 256) + b % 256], true, rest⟩ :=
    scanGroups_of_v4 (by decide) rfl hv4
  rw [Nat.div_add_mod, Nat.div_add_mod] at htwo
  have hback : scanGroups true 7 (Nat.toDigits 16 0xFFFF ++ ':' :: octets) =
      ⟨[0xFFFF, a, b], true, rest⟩ := by
    rw [scanGroups_of_group rfl (scanV4_toDigits (by simp) (noDigit_cons rfl _))
      (scanGroup_toDigits (by decide) (noDigit_cons rfl _)), htwo]
  have htext : "::ffff:".toList = ':' :: ':' :: (Nat.toDigits 16 0xFFFF ++ [':']) := by decide
  rw [htext, List.cons_append, List.cons_append, List.append_assoc]
  rw [List.singleton_append, scanV6_double (scanGroups_after true (.inl ⟨_, rfl⟩)) (by decide) hback]
  rfl

/-- The text of eight groups is read as these groups. -/
theorem scanV6_groupsText (hgs : ∀ g ∈ groups, g ≤ 0xFFFF) (hlength : groups.length = 8)
    (hrest : AfterGroups rest) :
    scanV6 ((groupsText groups).toList ++ rest) = some (groups, rest) := by
  unfold groupsText
  split
  next a b =>
    simp only [List.forall_mem_cons] at hgs
    rw [String.toList_append, List.append_assoc]
    exact scanV6_mapped hgs.2.2.2.2.2.2.1 hgs.2.2.2.2.2.2.2.1 hrest
  next =>
    rcases hrun : longestZeros groups with ⟨start, length⟩
    have hsplit := eq_append_longestZeros hrun
    dsimp only
    split
    next hmany =>
      have htotal : (groups.take start).length + length + (groups.drop (start + length)).length = 8 := by
        have hlengths := congrArg List.length hsplit
        simp only [List.length_append, List.length_replicate] at hlengths
        omega
      have hread := scanV6_compressed (fun g hg => hgs g (List.mem_of_mem_take hg))
        (fun g hg => hgs g (List.mem_of_mem_drop hg)) (by omega) htotal hrest
      rw [← hsplit] at hread
      simpa using hread
    next => exact scanV6_full hgs hlength hrest

/-- Groups that were read are eight, of sixteen bits each. -/
theorem of_scanV6 {text : List Char} (h : scanV6 text = some (groups, rest)) :
    groups.length = 8 ∧ ∀ g ∈ groups, g ≤ 0xFFFF := by
  obtain ⟨hfront, hfrontAll⟩ := scanGroups_bounded true 8 text
  unfold scanV6 at h
  dsimp only at h
  split at h
  next hfull =>
    cases h
    exact ⟨hfull, hfrontAll⟩
  next hshort =>
    split at h
    next => cases h
    next =>
      simp only [Option.bind_eq_bind, Option.bind_eq_some_iff] at h
      obtain ⟨_, -, after, -, hall⟩ := h
      cases hall
      obtain ⟨hback, hbackAll⟩ :=
        scanGroups_bounded true (8 - ((scanGroups true 8 text).groups.length + 1)) after
      refine ⟨?_, fun g hg => ?_⟩
      · simp only [List.length_append, List.length_replicate]
        omega
      · simp only [List.mem_append, List.mem_replicate] at hg
        rcases hg with (hg | ⟨-, rfl⟩) | hg
        · exact hfrontAll g hg
        · exact Nat.zero_le _
        · exact hbackAll g hg

end Groups

/-! ### Addresses -/

theorem scanPort_toDigits {port : Nat} (h : port ≤ 0xFFFF) :
    scanPort (':' :: Nat.toDigits 10 port) = some (port, []) := by
  have hnumeral : scanNumeral 10 none 0xFFFF (Nat.toDigits 10 port ++ []) = some (port, []) :=
    scanNumeral_toDigits (by decide) (by decide) h (fun _ hm => nomatch hm) (noDigit_nil 10)
  rw [List.append_nil] at hnumeral
  simp [scanPort, scanChar_self, hnumeral]

theorem of_scanPort {text rest : List Char} {port : Nat} (h : scanPort text = some (port, rest)) :
    port ≤ 0xFFFF := by
  obtain ⟨_, -, hnumeral⟩ := Option.bind_eq_some_iff.mp h
  exact (of_scanNumeral hnumeral).1

theorem of_scanZone {text rest : List Char} {zone : Nat} (h : scanZone text = some (zone, rest)) :
    zone ≤ 0xFFFFFFFF := by
  unfold scanZone at h
  split at h
  next => exact (of_scanNumeral h).1
  next =>
    cases h
    exact Nat.zero_le _

/-- The text of a zone; there is none for zero. -/
def zoneChars (zone : Nat) : List Char :=
  if zone = 0 then [] else '%' :: Nat.toDigits 10 zone

theorem scanZone_zoneChars {zone : Nat} (h : zone ≤ 0xFFFFFFFF) (rest : List Char) :
    scanZone (zoneChars zone ++ ']' :: rest) = some (zone, ']' :: rest) := by
  unfold zoneChars
  split
  next hzero =>
    subst hzero
    rfl
  next =>
    have hmost : ∀ m ∈ (none : Option Nat), (Nat.toDigits 10 zone).length ≤ m := fun _ hm => nomatch hm
    exact scanNumeral_toDigits (by decide) (by decide) h hmost (noDigit_cons rfl rest)

theorem afterGroups_zoneChars (zone : Nat) (rest : List Char) :
    AfterGroups (zoneChars zone ++ ']' :: rest) := by
  unfold zoneChars
  split
  · exact .inr (.inr ⟨_, rfl⟩)
  · exact .inr (.inl ⟨_, rfl⟩)

theorem scanV4Address_display {octets : List Nat} {port : Nat} (h : (v4 octets port).IsValid) :
    scanV4Address (display (.v4 octets port)).toList = some (.v4 octets port, []) := by
  obtain ⟨hlength, hall, hport⟩ := h
  match octets, hlength with
  | [a, b, c, d], _ =>
    simp only [List.forall_mem_cons] at hall
    obtain ⟨ha, hb, hc, hd, -⟩ := hall
    have hoctets := scanV4_dotted ha hb hc hd (noDigit_cons (c := ':') rfl (Nat.toDigits 10 port))
    simp [scanV4Address, display, hoctets, scanPort_toDigits hport]

theorem scanV6Address_display {groups : List Nat} {zone port : Nat}
    (h : (v6 groups zone port).IsValid) :
    scanV6Address (display (.v6 groups zone port)).toList = some (.v6 groups zone port, []) := by
  obtain ⟨hlength, hall, hzone, hport⟩ := h
  have htext : (display (.v6 groups zone port)).toList =
      '[' :: ((groupsText groups).toList ++
        (zoneChars zone ++ ']' :: ':' :: Nat.toDigits 10 port)) := by
    unfold zoneChars
    split <;> simp [display, *]
  have hgroups := scanV6_groupsText hall hlength
    (afterGroups_zoneChars zone (':' :: Nat.toDigits 10 port))
  rw [htext, scanV6Address, scanChar_self]
  simp [hgroups, scanZone_zoneChars hzone, scanChar_self, scanPort_toDigits hport]

/-- The canonical text of an address names that address. -/
theorem parse?_display {a : SocketAddress} (h : a.IsValid) : parse? a.display = some a := by
  cases a with
  | v4 octets port => simp [parse?, scanV4Address_display h]
  | v6 groups zone port =>
    have hbracket : scanV4Address (display (.v6 groups zone port)).toList = none := by
      simp [scanV4Address, display, scanV4_of_noDigit (noDigit_cons (c := '[') rfl _)]
    simp [parse?, hbracket, scanV6Address_display h]

example : (v6 [0xfe80, 0, 0, 0, 0, 0, 0, 1] 3 8080).display = "[fe80::1%3]:8080" := by decide

/-- A text names no other addresses than these. -/
theorem isValid_of_parse? {text : String} {a : SocketAddress} (h : parse? text = some a) :
    a.IsValid := by
  unfold parse? at h
  split at h
  next found hfound =>
    cases h
    rcases Option.or_eq_some_iff.mp hfound with hv4 | ⟨-, hv6⟩
    · simp only [scanV4Address, Option.bind_eq_bind, Option.bind_eq_some_iff, Prod.exists] at hv4
      obtain ⟨octets, _, hoctets, port, _, hport, hall⟩ := hv4
      cases hall
      obtain ⟨_, _, _, _, rfl, ha, hb, hc, hd⟩ := of_scanV4 hoctets
      exact ⟨rfl, by simp [ha, hb, hc, hd], (of_scanPort hport)⟩
    · simp only [scanV6Address, Option.bind_eq_bind, Option.bind_eq_some_iff, Prod.exists] at hv6
      obtain ⟨_, -, groups, _, hgroups, zone, _, hzone, _, -, port, _, hport, hall⟩ := hv6
      cases hall
      obtain ⟨hlength, hbound⟩ := of_scanV6 hgroups
      exact ⟨hlength, hbound, of_scanZone hzone, of_scanPort hport⟩
  next => cases h

end Fanout.SocketAddress
