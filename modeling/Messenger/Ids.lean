/-
Numbers that name messages, threads and requests.

Message and thread numbers are given out from one upwards.  A thread number of minus one stands
for no thread at all, which is where messages outside any conversation are kept.
-/

namespace Messenger

structure MessageId where
  val : Int
deriving DecidableEq, Inhabited

structure ThreadId where
  val : Int
deriving DecidableEq, Inhabited

/-- The name of a request, quoted by its answer. -/
structure RequestId where
  val : Nat
deriving DecidableEq, Inhabited

namespace MessageId

instance : Ord MessageId := ⟨compareOn val⟩

instance : Std.TransOrd MessageId := inferInstanceAs (Std.TransCmp (compareOn val))

instance : Std.LawfulEqOrd MessageId where
  eq_of_compare {a b} h := by
    have h : compare a.val b.val = .eq := h
    cases a; cases b; simp_all

def next (id : MessageId) : MessageId := ⟨id.val + 1⟩

end MessageId

namespace ThreadId

instance : Ord ThreadId := ⟨compareOn val⟩

instance : Std.TransOrd ThreadId := inferInstanceAs (Std.TransCmp (compareOn val))

instance : Std.LawfulEqOrd ThreadId where
  eq_of_compare {a b} h := by
    have h : compare a.val b.val = .eq := h
    cases a; cases b; simp_all

/-- The number that stands for no thread. -/
def none : ThreadId := ⟨-1⟩

def isNone (id : ThreadId) : Bool := id = none

theorem isNone_eq_false {id : ThreadId} : id.isNone = false ↔ id ≠ none := decide_eq_false_iff_not

def next (id : ThreadId) : ThreadId := ⟨id.val + 1⟩

end ThreadId

namespace RequestId

instance : Ord RequestId := ⟨compareOn val⟩

instance : Std.TransOrd RequestId := inferInstanceAs (Std.TransCmp (compareOn val))

instance : Std.LawfulEqOrd RequestId where
  eq_of_compare {a b} h := by
    have h : compare a.val b.val = .eq := h
    cases a; cases b; simp_all

end RequestId

end Messenger
