/-
# Texts are ordered as their octets are

A text is compared character by character; a store that knows texts by their UTF-8 form compares
octets.  Both give the same order: the forms of two characters differ somewhere, and where they first
differ the smaller character has the smaller octet (`below_utf8EncodeChar`).  So neither form begins the
other, and it does not matter what comes after them.
-/
import Mathlib.Tactic.SplitIfs
import Messenger.Text.Octets

namespace Messenger.Octets

/-- The octets differ, and where they first differ the first has the smaller one. -/
inductive Below : Octets → Octets → Prop where
  | here {x y : UInt8} {one two : Octets} (lt : x < y) : Below (x :: one) (y :: two)
  | later {x : UInt8} {one two : Octets} (below : Below one two) : Below (x :: one) (x :: two)

theorem Below.append_lt {one two : Octets} (below : Below one two) (more others : Octets) :
    one ++ more < two ++ others := by
  induction below with
  | here lt => exact List.cons_lt_cons_iff.2 (Or.inl lt)
  | later _ ih => exact List.cons_lt_cons_iff.2 (Or.inr ⟨rfl, ih⟩)

theorem below_cons {a b : Nat} {one two : Octets} (le : a ≤ b) (octet : b < 256)
    (same : a = b → Below one two) : Below (.ofNat a :: one) (.ofNat b :: two) := by
  rcases Nat.eq_or_lt_of_le le with rfl | lt
  · exact .later (same rfl)
  · have first : (UInt8.ofNat a).toNat = a := UInt8.toNat_ofNat_of_lt' (Nat.lt_trans lt octet)
    have second : (UInt8.ofNat b).toNat = b := UInt8.toNat_ofNat_of_lt' octet
    refine .here (UInt8.lt_iff_toNat_lt.2 ?_)
    rwa [first, second]

theorem below_utf8EncodeChar {c d : Char} (lt : c < d) :
    Below (String.utf8EncodeChar c) (String.utf8EncodeChar d) := by
  have lt : c.val.toNat < d.val.toNat := lt
  have last : d.val.toNat < 0x110000 := by
    rcases d.valid with low | high
    · exact Nat.lt_trans low (by decide)
    · exact high.2
  unfold String.utf8EncodeChar
  dsimp only
  generalize c.val.toNat = v at lt ⊢
  generalize d.val.toNat = w at lt last ⊢
  -- The octets are compared one by one; forms of different length differ in the first.
  split_ifs
  all_goals refine below_cons (by omega) (by omega) fun first => ?_
  all_goals try omega
  all_goals refine below_cons (by omega) (by omega) fun second => ?_
  all_goals try omega
  all_goals refine below_cons (by omega) (by omega) fun third => ?_
  all_goals try omega
  refine below_cons (by omega) (by omega) fun fourth => ?_
  omega

theorem ofText_eq (text : String) : ofText text = text.toList.flatMap String.utf8EncodeChar := by
  rw [ofText, String.toUTF8_eq_toByteArray, ← String.utf8Encode_toList, List.utf8Encode,
    List.toList_data_toByteArray]

/-- Of two texts, the smaller one has the smaller octets. -/
theorem ofText_lt {one two : String} (lt : compare one two = .lt) : ofText one < ofText two := by
  have lt : one.toList < two.toList := String.lt_iff.1 (compareOfLessAndEq_eq_lt.1 lt)
  rw [ofText_eq, ofText_eq]
  generalize one.toList = cs at lt ⊢
  generalize two.toList = ds at lt ⊢
  induction lt with
  | @nil d rest =>
    obtain ⟨octet, more, form⟩ := List.exists_cons_of_ne_nil (@String.utf8EncodeChar_ne_nil d)
    rw [List.flatMap_nil, List.flatMap_cons, form]
    exact List.nil_lt_cons _ _
  | rel lt =>
    rw [List.flatMap_cons, List.flatMap_cons]
    exact (below_utf8EncodeChar lt).append_lt _ _
  | cons _ ih =>
    rw [List.flatMap_cons, List.flatMap_cons]
    exact List.append_left_lt ih

end Messenger.Octets
