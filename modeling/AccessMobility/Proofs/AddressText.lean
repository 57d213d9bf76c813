import AccessMobility.Address.IPv6
import Mathlib.Data.List.TakeWhile

/-!
# Addresses are determined by their texts

Dotted decimal text is cut at its dots and every number is read.  The text of an IPv6 address is
cut at its colons, and what stands between two colons is a group, or nothing where a run of zeros
was left out.  An address has eight groups, so the number of groups left out is known: what stands
before the gap, as many zeros as are missing, and what stands after the gap are all groups of the
address.  For this it does not matter which run of zeros was left out, only that there are zeros.

An address that is written with dots at its end is told apart from the others by a dot.
-/

namespace AccessMobility

/-! ## Dotted text -/

namespace IPv4

def octetDigits (octet : UInt8) : List Char :=
  Nat.toDigits 10 octet.toNat

theorem octetDigits_injective {left right : UInt8} (heq : octetDigits left = octetDigits right) :
    left = right := by
  have hvalue (octet : UInt8) : Nat.ofDigitChars 10 (octetDigits octet) 0 = octet.toNat :=
    Nat.ofDigitChars_toDigits (by decide) (by decide)
  rw [← UInt8.toNat_inj, ← hvalue left, heq, hvalue right]

theorem isDigit_of_mem_octetDigits {octet : UInt8} {c : Char} (hmem : c ∈ octetDigits octet) :
    c.isDigit = true :=
  Nat.isDigit_of_mem_toDigits (by decide) (Nat.le_refl 10) hmem

theorem toList_text (octets : List UInt8) :
    (text octets).toList = ['.'].intercalate (octets.map octetDigits) := by
  have hdigits (octet : UInt8) : (toString octet.toNat).toList = octetDigits octet :=
    String.toList_ofList
  rw [text, String.toList_intercalate, List.map_map]
  exact congrArg _ (List.map_congr_left fun octet _ => hdigits octet)

theorem splitOn_text {octets : List UInt8} (hne : octets ≠ []) :
    (text octets).toList.splitOn '.' = octets.map octetDigits := by
  rw [toList_text]
  refine List.splitOn_intercalate '.' ?_ (by simpa using hne)
  intro field hfield hdot
  obtain ⟨octet, -, rfl⟩ := List.mem_map.mp hfield
  exact absurd (isDigit_of_mem_octetDigits hdot) (by decide)

theorem text_injective {left right : List UInt8} (hleft : left ≠ []) (hright : right ≠ [])
    (htext : text left = text right) : left = right := by
  have hfields : left.map octetDigits = right.map octetDigits := by
    rw [← splitOn_text hleft, htext, splitOn_text hright]
  exact (List.map_inj_right fun _ _ => octetDigits_injective).mp hfields

theorem colon_not_mem_text (octets : List UInt8) : ':' ∉ (text octets).toList := by
  rw [toList_text]
  induction octets with
  | nil => simp
  | cons octet rest ih =>
      have hdigits : ':' ∉ octetDigits octet := fun hcolon =>
        absurd (isDigit_of_mem_octetDigits hcolon) (by decide)
      cases rest with
      | nil => simpa using hdigits
      | cons next others =>
          rw [List.map_cons, List.map_cons, List.intercalate_cons_cons, List.mem_append,
            List.mem_append, not_or, not_or, ← List.map_cons]
          exact ⟨⟨hdigits, by decide⟩, ih⟩

theorem dot_mem_text {octets : List UInt8} (htwo : 2 ≤ octets.length) :
    '.' ∈ (text octets).toList := by
  match octets, htwo with
  | first :: second :: rest, _ =>
      rw [toList_text, List.map_cons, List.map_cons, List.intercalate_cons_cons]
      simp

end IPv4

namespace IPv6

/-! ## Groups of two octets -/

theorem length_groups : ∀ octets : List UInt8, (groups octets).length = octets.length / 2
  | [] => rfl
  | [_] => by simp [groups]
  | _ :: _ :: rest => by
      rw [groups, List.length_cons, length_groups rest, List.length_cons, List.length_cons]
      omega

theorem groups_lt : ∀ octets : List UInt8, ∀ group ∈ groups octets, group < 65536
  | [] => by simp [groups]
  | [_] => by simp [groups]
  | high :: low :: rest => by
      have hhigh := high.toNat_lt
      have hlow := low.toNat_lt
      rw [groups, List.forall_mem_cons]
      exact ⟨by omega, groups_lt rest⟩

theorem groups_take : ∀ (count : Nat) (octets : List UInt8),
    groups (octets.take (2 * count)) = (groups octets).take count
  | 0, octets => by simp [groups]
  | count + 1, [] => by simp [groups]
  | count + 1, [octet] => by
      rw [List.take_of_length_le (by rw [List.length_singleton]; omega)]
      rfl
  | count + 1, high :: low :: rest => by
      rw [Nat.mul_add_one, List.take_succ_cons, List.take_succ_cons, groups, groups,
        List.take_succ_cons, groups_take count rest]

theorem groups_injective : ∀ {left right : List UInt8}, left.length % 2 = 0 →
    right.length % 2 = 0 → groups left = groups right → left = right
  | [], [], _, _, _ => rfl
  | [], _ :: _ :: _, _, _, heq => by simp [groups] at heq
  | _ :: _ :: _, [], _, _, heq => by simp [groups] at heq
  | [_], _, hleft, _, _ => by simp at hleft
  | _, [_], _, hright, _ => by simp at hright
  | high :: low :: rest, high' :: low' :: rest', hleft, hright, heq => by
      rw [groups, groups, List.cons.injEq] at heq
      obtain ⟨hgroup, hrest⟩ := heq
      have hlow := low.toNat_lt
      have hlow' := low'.toNat_lt
      simp only [List.length_cons] at hleft hright
      have hhighs : high = high' := UInt8.toNat_inj.mp (by omega)
      have hlows : low = low' := UInt8.toNat_inj.mp (by omega)
      rw [hhighs, hlows, groups_injective (by omega) (by omega) hrest]

/-! ## Digits of a group -/

/-- The zeros in front are known from the width. -/
theorem leftpad_dropWhile (digits : List Char) :
    (digits.dropWhile (· = '0')).leftpad digits.length '0' = digits := by
  induction digits with
  | nil => rfl
  | cons digit rest ih =>
      by_cases hzero : digit = '0'
      · have hshorter := (List.dropWhile_suffix (l := rest) (decide <| · = '0')).length_le
        rw [List.dropWhile_cons_of_pos (by simpa using hzero), List.leftpad, List.length_cons,
          Nat.succ_sub hshorter, List.replicate_succ, List.cons_append, hzero]
        exact congrArg _ ih
      · rw [List.dropWhile_cons_of_neg (by simpa using hzero), List.leftpad, Nat.sub_self]
        rfl

theorem leftpad_groupDigits (group : Nat) :
    (groupDigits group).leftpad 4 '0' = Hex.fixed 4 group := by
  have hpadded := leftpad_dropWhile (Hex.fixed 4 group)
  rw [Hex.length_fixed] at hpadded
  unfold groupDigits
  split
  next hnone =>
    rw [hnone] at hpadded
    exact hpadded
  next => exact hpadded

theorem groupDigits_injective {left right : Nat} (hleft : left < 65536) (hright : right < 65536)
    (heq : groupDigits left = groupDigits right) : left = right := by
  have hfixed : Hex.fixed 4 left = Hex.fixed 4 right := by
    rw [← leftpad_groupDigits, heq, leftpad_groupDigits]
  refine Hex.fixed_injective ?_ ?_ hfixed
  · exact hleft
  · exact hright

theorem groupDigits_ne_nil (group : Nat) : groupDigits group ≠ [] := by
  unfold groupDigits
  split
  · simp
  next hne => exact hne

theorem mem_fixed {width n : Nat} {c : Char} (hmem : c ∈ Hex.fixed width n) :
    ∃ value < 16, c = Hex.digit value := by
  induction width generalizing n with
  | zero => simp [Hex.fixed] at hmem
  | succ width ih =>
      rw [Hex.fixed, List.mem_append, List.mem_singleton] at hmem
      rcases hmem with hfront | rfl
      · exact ih hfront
      · exact ⟨n % 16, Nat.mod_lt _ (by decide), rfl⟩

/-- No mark of an address is a hexadecimal digit. -/
theorem mark_not_mem_groupDigits (group : Nat) :
    ':' ∉ groupDigits group ∧ '.' ∉ groupDigits group := by
  have hdigits : ∀ c ∈ groupDigits group, ∃ value < 16, c = Hex.digit value := by
    unfold groupDigits
    split
    · exact fun c hmem => ⟨0, by decide, List.mem_singleton.mp hmem⟩
    next => exact fun c hmem => mem_fixed ((List.dropWhile_suffix _).subset hmem)
  have hmarks : ∀ value : Fin 16, ':' ≠ Hex.digit value.val ∧ '.' ≠ Hex.digit value.val := by
    decide
  constructor
  · intro hmem
    obtain ⟨value, hlt, heq⟩ := hdigits _ hmem
    exact (hmarks ⟨value, hlt⟩).1 heq
  · intro hmem
    obtain ⟨value, hlt, heq⟩ := hdigits _ hmem
    exact (hmarks ⟨value, hlt⟩).2 heq

/-! ## Runs of zero groups -/

/-- The groups from a place on begin with some zeros. -/
def IsZeroRun (groups : List Nat) (start length : Nat) : Prop :=
  List.replicate length 0 <+: groups.drop start

/-- A run of zeros, none longer and none as long further to the left. -/
structure LeftmostLongest (groups : List Nat) (start length : Nat) : Prop where
  zeros : IsZeroRun groups start length
  longest : ∀ {other count}, IsZeroRun groups other count → count ≤ length
  leftmost : ∀ {other}, IsZeroRun groups other length → start ≤ other

theorem isZeroRun_cons_succ {group : Nat} {rest : List Nat} {start length : Nat} :
    IsZeroRun (group :: rest) (start + 1) length ↔ IsZeroRun rest start length :=
  Iff.rfl

theorem replicate_prefix_iff (groups : List Nat) (count : Nat) :
    List.replicate count 0 <+: groups ↔ count ≤ leadingZeros groups := by
  unfold leadingZeros
  induction groups generalizing count with
  | nil => cases count <;> simp
  | cons group rest ih =>
      cases count with
      | zero => simp
      | succ count =>
          rw [List.replicate_succ, List.cons_prefix_cons, ih]
          by_cases hzero : group = 0
          · simp [hzero]
          · simp [hzero, Ne.symm hzero]

theorem isZeroRun_zero_iff (groups : List Nat) (count : Nat) :
    IsZeroRun groups 0 count ↔ count ≤ leadingZeros groups :=
  replicate_prefix_iff groups count

theorem leftmostLongest_longestZeroRun (groups : List Nat) :
    LeftmostLongest groups (longestZeroRun groups).1 (longestZeroRun groups).2 := by
  induction groups with
  | nil =>
      refine ⟨List.prefix_refl _, ?_, fun _ => Nat.zero_le _⟩
      intro other count hrun
      rw [IsZeroRun, List.drop_nil, List.prefix_nil, List.replicate_eq_nil_iff] at hrun
      exact Nat.le_of_eq hrun
  | cons group rest ih =>
      have hhere := isZeroRun_zero_iff (group :: rest)
      dsimp only [longestZeroRun]
      split
      next hle =>
        refine ⟨(hhere _).mpr (Nat.le_refl _), ?_, fun _ => Nat.zero_le _⟩
        intro other count hrun
        cases other with
        | zero => exact (hhere count).mp hrun
        | succ other => exact Nat.le_trans (ih.longest (isZeroRun_cons_succ.mp hrun)) hle
      next hlt =>
        refine ⟨isZeroRun_cons_succ.mpr ih.zeros, ?_, ?_⟩
        · intro other count hrun
          cases other with
          | zero => exact Nat.le_trans ((hhere count).mp hrun) (Nat.le_of_not_le hlt)
          | succ other => exact ih.longest (isZeroRun_cons_succ.mp hrun)
        · intro other hrun
          cases other with
          | zero => exact absurd ((hhere _).mp hrun) hlt
          | succ other => exact Nat.succ_le_succ (ih.leftmost (isZeroRun_cons_succ.mp hrun))

/-- The groups before a run of zeros, the zeros, and the groups after it. -/
theorem IsZeroRun.split {groups : List Nat} {start length : Nat}
    (hrun : IsZeroRun groups start length) (hstart : start ≤ groups.length) :
    groups = groups.take start ++ List.replicate length 0 ++ groups.drop (start + length) ∧
      (groups.take start).length = start := by
  obtain ⟨after, hafter⟩ := hrun
  have hdrop : groups.drop (start + length) = after := by
    rw [← List.drop_drop, ← hafter, List.drop_left' List.length_replicate]
  refine ⟨?_, List.length_take_of_le hstart⟩
  rw [List.append_assoc, hdrop, hafter, List.take_append_drop]

/-! ## Cutting text at its colons -/

/-- Cut at its colons, the text of no groups is an empty field. -/
def orEmpty (fields : List (List Char)) : List (List Char) :=
  if fields = [] then [[]] else fields

theorem orEmpty_ne_nil (fields : List (List Char)) : orEmpty fields ≠ [] := by
  unfold orEmpty
  split
  · simp
  next hne => exact hne

theorem reverse_orEmpty (fields : List (List Char)) :
    (orEmpty fields).reverse = orEmpty fields.reverse := by
  cases fields with
  | nil => rfl
  | cons field rest => simp [orEmpty]

theorem toList_joined (groups : List Nat) :
    (joined groups).toList = [':'].intercalate (orEmpty (groups.map groupDigits)) := by
  have htexts : (groups.map groupText).map String.toList = groups.map groupDigits := by
    rw [List.map_map]
    exact List.map_congr_left fun group _ => String.toList_ofList
  rw [joined, String.toList_intercalate, htexts]
  cases groups with
  | nil => rfl
  | cons group rest => rfl

/-- The fields of the text of an address. -/
def fields (groups : List Nat) : List (List Char) :=
  let run := longestZeroRun groups
  if 2 ≤ run.2 then
    orEmpty ((groups.take run.1).map groupDigits) ++
      [] :: orEmpty ((groups.drop (run.1 + run.2)).map groupDigits)
  else
    orEmpty (groups.map groupDigits)

theorem intercalate_append {mark : List Char} {front back : List (List Char)}
    (hfront : front ≠ []) (hback : back ≠ []) :
    mark.intercalate (front ++ back) = mark.intercalate front ++ mark ++ mark.intercalate back := by
  induction front with
  | nil => exact absurd rfl hfront
  | cons field rest ih =>
      cases rest with
      | nil =>
          rw [List.singleton_append, List.intercalate_cons_of_ne_nil hback,
            List.intercalate_singleton]
      | cons next others =>
          rw [List.cons_append, List.intercalate_cons_of_ne_nil (by simp),
            ih (List.cons_ne_nil _ _), List.intercalate_cons_cons]
          simp only [List.append_assoc]

theorem toList_compressed (groups : List Nat) :
    (compressed groups).toList = [':'].intercalate (fields groups) := by
  have hgap (back : List (List Char)) (hback : back ≠ []) :
      [':'].intercalate ([] :: back) = ':' :: [':'].intercalate back :=
    List.intercalate_cons_of_ne_nil hback
  dsimp only [compressed, fields]
  split
  · rw [intercalate_append (orEmpty_ne_nil _) (List.cons_ne_nil _ _), hgap _ (orEmpty_ne_nil _),
      String.toList_append, String.toList_append, toList_joined, toList_joined]
    simp
  · exact toList_joined groups

theorem mem_orEmpty {groups : List Nat} {field : List Char}
    (hmem : field ∈ orEmpty (groups.map groupDigits)) :
    field = [] ∨ ∃ group, field = groupDigits group := by
  unfold orEmpty at hmem
  split at hmem
  · exact Or.inl (List.mem_singleton.mp hmem)
  · obtain ⟨group, -, rfl⟩ := List.mem_map.mp hmem
    exact Or.inr ⟨group, rfl⟩

theorem mark_not_mem_fields {groups : List Nat} {field : List Char}
    (hmem : field ∈ fields groups) : ':' ∉ field ∧ '.' ∉ field := by
  have hfield : field = [] ∨ ∃ group, field = groupDigits group := by
    dsimp only [fields] at hmem
    split at hmem
    · rw [List.mem_append, List.mem_cons] at hmem
      rcases hmem with hfront | hgap | hback
      · exact mem_orEmpty hfront
      · exact Or.inl hgap
      · exact mem_orEmpty hback
    · exact mem_orEmpty hmem
  rcases hfield with rfl | ⟨group, rfl⟩
  · simp
  · exact mark_not_mem_groupDigits group

theorem fields_ne_nil (groups : List Nat) : fields groups ≠ [] := by
  dsimp only [fields]
  split
  · simp
  · exact orEmpty_ne_nil _

theorem splitOn_compressed (groups : List Nat) :
    (compressed groups).toList.splitOn ':' = fields groups := by
  rw [toList_compressed]
  exact List.splitOn_intercalate ':' (fun _ hmem => (mark_not_mem_fields hmem).1)
    (fields_ne_nil groups)

/-! ## Putting the zeros back -/

/-- The fields before the gap, the zeros that are missing to eight groups, the fields after it. -/
def expand (fields : List (List Char)) : List (List Char) :=
  let front := fields.takeWhile (· ≠ [])
  let back := ((fields.drop front.length).reverse.takeWhile (· ≠ [])).reverse
  front ++ List.replicate (8 - front.length - back.length) ['0'] ++ back

theorem takeWhile_orEmpty {written : List (List Char)} (hwritten : ∀ field ∈ written, field ≠ [])
    (rest : List (List Char)) :
    (orEmpty written ++ [] :: rest).takeWhile (· ≠ []) = written := by
  unfold orEmpty
  split
  next hnone => rw [hnone]; rfl
  next =>
    rw [List.takeWhile_append_of_pos fun field hmem => by simpa using hwritten field hmem]
    simp

theorem expand_gap {front back : List (List Char)} (hfront : ∀ field ∈ front, field ≠ [])
    (hback : ∀ field ∈ back, field ≠ []) :
    expand (orEmpty front ++ [] :: orEmpty back) =
      front ++ List.replicate (8 - front.length - back.length) ['0'] ++ back := by
  have hdrop : ∃ gap, (orEmpty front ++ [] :: orEmpty back).drop front.length =
      gap ++ [] :: orEmpty back := by
    unfold orEmpty
    split
    next hnone => exact ⟨[[]], by rw [hnone]; rfl⟩
    next => exact ⟨[], List.drop_left⟩
  obtain ⟨gap, hgap⟩ := hdrop
  have hreversed : (gap ++ [] :: orEmpty back).reverse =
      orEmpty back.reverse ++ [] :: gap.reverse := by
    rw [List.reverse_append, List.reverse_cons, reverse_orEmpty, List.append_assoc]
    rfl
  dsimp only [expand]
  rw [takeWhile_orEmpty hfront, hgap, hreversed,
    takeWhile_orEmpty fun field hmem => hback field (List.mem_reverse.mp hmem)]
  rw [List.reverse_reverse]

theorem expand_whole {written : List (List Char)} (hwritten : ∀ field ∈ written, field ≠ [])
    (height : written.length = 8) : expand written = written := by
  have hfront : written.takeWhile (· ≠ []) = written :=
    List.takeWhile_eq_self_iff.mpr fun field hmem => by simpa using hwritten field hmem
  dsimp only [expand]
  rw [hfront, List.drop_length]
  simp [height]

/-- The digits of all eight groups are found in the fields, wherever the gap is. -/
theorem expand_fields {groups : List Nat} (height : groups.length = 8) :
    expand (fields groups) = groups.map groupDigits := by
  have hwritten (some : List Nat) : ∀ field ∈ some.map groupDigits, field ≠ [] := by
    intro field hmem
    obtain ⟨group, -, rfl⟩ := List.mem_map.mp hmem
    exact groupDigits_ne_nil group
  have hrun := (leftmostLongest_longestZeroRun groups).zeros
  dsimp only [fields]
  generalize longestZeroRun groups = run at hrun
  obtain ⟨start, length⟩ := run
  dsimp only at hrun ⊢
  split
  next htwo =>
    have hstart : start ≤ groups.length := by
      by_contra hbeyond
      rw [IsZeroRun, List.drop_of_length_le (by omega), List.prefix_nil,
        List.replicate_eq_nil_iff] at hrun
      omega
    obtain ⟨hsplit, hfront⟩ := hrun.split hstart
    have hlengths := congrArg List.length hsplit
    simp only [List.length_append, List.length_replicate, hfront, height] at hlengths
    have hzeros : (List.replicate length 0).map groupDigits = List.replicate length ['0'] :=
      List.map_replicate
    have hmissing : 8 - start - (groups.drop (start + length)).length = length := by omega
    calc
      expand _ = (groups.take start).map groupDigits ++
          List.replicate (8 - start - (groups.drop (start + length)).length) ['0'] ++
            (groups.drop (start + length)).map groupDigits := by
        rw [expand_gap (hwritten _) (hwritten _), List.length_map, List.length_map, hfront]
      _ = (groups.take start ++ List.replicate length 0 ++
            groups.drop (start + length)).map groupDigits := by
        rw [hmissing, List.map_append, List.map_append, hzeros]
      _ = groups.map groupDigits := by rw [← hsplit]
  next =>
    have hsome : orEmpty (groups.map groupDigits) = groups.map groupDigits := by
      refine if_neg fun hnone => ?_
      rw [List.map_eq_nil_iff] at hnone
      rw [hnone] at height
      cases height
    rw [hsome]
    exact expand_whole (hwritten groups) (by rw [List.length_map, height])

theorem compressed_injective {left right : List Nat} (hleft : left.length = 8)
    (hright : right.length = 8) (hleftLt : ∀ group ∈ left, group < 65536)
    (hrightLt : ∀ group ∈ right, group < 65536) (htext : compressed left = compressed right) :
    left = right := by
  have hdigits : left.map groupDigits = right.map groupDigits := by
    rw [← expand_fields hleft, ← expand_fields hright, ← splitOn_compressed, ← splitOn_compressed,
      htext]
  apply List.ext_getElem (hleft.trans hright.symm)
  intro i hi hi'
  have hgroup : groupDigits left[i] = groupDigits right[i] := by
    have hplace := congrArg (·[i]?) hdigits
    simpa [hi, hi'] using hplace
  exact groupDigits_injective (hleftLt _ (List.getElem_mem hi)) (hrightLt _ (List.getElem_mem hi'))
    hgroup

/-! ## All addresses -/

/-- The groups of an address that is written with an IPv4 address at its end. -/
def Mapped (octets : List UInt8) : Prop :=
  (groups octets).take 6 = [0, 0, 0, 0, 0, 0xffff]

theorem text_of_mapped {octets : List UInt8} (hmapped : Mapped octets) :
    text octets = "::ffff:" ++ IPv4.text (octets.drop 12) :=
  if_pos hmapped

theorem text_of_not_mapped {octets : List UInt8} (hnot : ¬ Mapped octets) :
    text octets = compressed (groups octets) :=
  if_neg hnot

/-- An address is written with dots at its end, or with the leftmost longest run of two or more zero
groups left out. -/
theorem text_cases (octets : List UInt8) :
    (Mapped octets ∧ text octets = "::ffff:" ++ IPv4.text (octets.drop 12)) ∨
      (¬ Mapped octets ∧ ∃ start length, LeftmostLongest (groups octets) start length ∧
        text octets =
          if 2 ≤ length then
            joined ((groups octets).take start) ++ "::" ++
              joined ((groups octets).drop (start + length))
          else joined (groups octets)) := by
  by_cases hmapped : Mapped octets
  · exact Or.inl ⟨hmapped, text_of_mapped hmapped⟩
  · exact Or.inr ⟨hmapped, _, _, leftmostLongest_longestZeroRun _, text_of_not_mapped hmapped⟩

/-- The dotted text is the last field, and no field of a compressed text has a dot. -/
theorem mapped_text_ne_compressed {octets : List UInt8} (htwo : 2 ≤ octets.length)
    (groups : List Nat) : "::ffff:" ++ IPv4.text octets ≠ compressed groups := by
  intro heq
  have hcut : ("::ffff:" ++ IPv4.text octets).toList =
      [':'].intercalate [[], [], ['f', 'f', 'f', 'f'], (IPv4.text octets).toList] := by
    have hmarks : "::ffff:".toList = [':', ':', 'f', 'f', 'f', 'f', ':'] := by decide +kernel
    rw [String.toList_append, hmarks]
    simp
  have hfields : [[], [], ['f', 'f', 'f', 'f'], (IPv4.text octets).toList] = fields groups := by
    rw [← splitOn_compressed, ← heq, hcut, List.splitOn_intercalate]
    · simp [IPv4.colon_not_mem_text]
    · simp
  have hlast : (IPv4.text octets).toList ∈ fields groups := by
    rw [← hfields]
    simp
  exact (mark_not_mem_fields hlast).2 (IPv4.dot_mem_text htwo)

theorem text_injective {left right : List UInt8} (hleft : left.length = 16)
    (hright : right.length = 16) (htext : text left = text right) : left = right := by
  have hdotted {octets : List UInt8} (hlength : octets.length = 16) :
      (octets.drop 12).length = 4 := by
    rw [List.length_drop, hlength]
  by_cases hmappedLeft : Mapped left
  · by_cases hmappedRight : Mapped right
    · rw [text_of_mapped hmappedLeft, text_of_mapped hmappedRight, String.append_right_inj]
        at htext
      have hback : left.drop 12 = right.drop 12 := by
        refine IPv4.text_injective ?_ ?_ htext
        · exact List.ne_nil_of_length_pos (by rw [hdotted hleft]; decide)
        · exact List.ne_nil_of_length_pos (by rw [hdotted hright]; decide)
      have hfront : left.take 12 = right.take 12 := by
        apply groups_injective
        · rw [List.length_take_of_le (by omega)]
        · rw [List.length_take_of_le (by omega)]
        · exact (groups_take 6 left).trans
            (hmappedLeft.trans (hmappedRight.symm.trans (groups_take 6 right).symm))
      rw [← List.take_append_drop 12 left, hfront, hback, List.take_append_drop]
    · rw [text_of_mapped hmappedLeft, text_of_not_mapped hmappedRight] at htext
      exact absurd htext (mapped_text_ne_compressed (by rw [hdotted hleft]; decide) _)
  · by_cases hmappedRight : Mapped right
    · rw [text_of_not_mapped hmappedLeft, text_of_mapped hmappedRight] at htext
      exact absurd htext.symm (mapped_text_ne_compressed (by rw [hdotted hright]; decide) _)
    · rw [text_of_not_mapped hmappedLeft, text_of_not_mapped hmappedRight] at htext
      refine groups_injective (by omega) (by omega) (compressed_injective ?_ ?_ ?_ ?_ htext)
      · rw [length_groups, hleft]
      · rw [length_groups, hright]
      · exact groups_lt left
      · exact groups_lt right

end IPv6

end AccessMobility
