/-
The BLAKE3 digest of a list of octets.

The input is cut into chunks of 1024 octets and each chunk into blocks of 64.  The blocks of a
chunk are compressed one after the other, each starting from the chaining value of the one
before; chaining values are then joined in pairs up a binary tree whose left subtrees are
complete.  A `Node` is a compression not yet carried out, because the last one of all, at the
root, is marked as such.
-/
import Messenger.Batches

namespace Messenger.Digest

/-- The eight words carried from one compression to the next. -/
abbrev Chaining := Vector UInt32 8

/-- The sixteen words of a block, and also the state of the compression function. -/
abbrev Block := Vector UInt32 16

/-- The chaining value that a chunk starts with. -/
def startValue : Chaining :=
  #v[0x6A09E667, 0xBB67AE85, 0x3C6EF372, 0xA54FF53A, 0x510E527F, 0x9B05688C, 0x1F83D9AB, 0x5BE0CD19]

def chunkStart : UInt32 := 1
def chunkEnd : UInt32 := 2
def parent : UInt32 := 4
def root : UInt32 := 8

def rotateRight (word count : UInt32) : UInt32 := (word >>> count) ||| (word <<< (32 - count))

/-- The quarter round on the words at four places of the state. -/
def quarter (s : Block) (a b c d : Fin 16) (x y : UInt32) : Block :=
  let s := s.set a (s[a] + s[b] + x)
  let s := s.set d (rotateRight (s[d] ^^^ s[a]) 16)
  let s := s.set c (s[c] + s[d])
  let s := s.set b (rotateRight (s[b] ^^^ s[c]) 12)
  let s := s.set a (s[a] + s[b] + y)
  let s := s.set d (rotateRight (s[d] ^^^ s[a]) 8)
  let s := s.set c (s[c] + s[d])
  s.set b (rotateRight (s[b] ^^^ s[c]) 7)

def round (s m : Block) : Block :=
  let s := quarter s 0 4 8 12 m[0] m[1]
  let s := quarter s 1 5 9 13 m[2] m[3]
  let s := quarter s 2 6 10 14 m[4] m[5]
  let s := quarter s 3 7 11 15 m[6] m[7]
  let s := quarter s 0 5 10 15 m[8] m[9]
  let s := quarter s 1 6 11 12 m[10] m[11]
  let s := quarter s 2 7 8 13 m[12] m[13]
  quarter s 3 4 9 14 m[14] m[15]

/-- Where each message word of the next round comes from. -/
def schedule : Vector (Fin 16) 16 := #v[2, 6, 3, 10, 7, 0, 4, 13, 1, 11, 12, 5, 9, 14, 15, 8]

def permute (m : Block) : Block := schedule.map fun i => m[i]

/-- The given number of rounds, with the message permuted between them. -/
def rounds : Nat → Block → Block → Block
  | 0, s, _ => s
  | n + 1, s, m => rounds n (round s m) (permute m)

/-- A compression: what it starts from, what it takes in and how it is marked. -/
structure Node where
  chaining : Chaining
  block : Block
  counter : UInt64
  length : UInt32
  flags : UInt32

/-- The chaining value that a compression leaves. -/
def Node.compress (node : Node) : Chaining :=
  let h := node.chaining
  let s : Block :=
    #v[h[0], h[1], h[2], h[3], h[4], h[5], h[6], h[7],
       startValue[0], startValue[1], startValue[2], startValue[3],
       node.counter.toUInt32, (node.counter >>> 32).toUInt32, node.length, node.flags]
  let s := rounds 7 s node.block
  .ofFn fun i => s[i] ^^^ s[i.val + 8]

/-- Four octets, the lowest first. -/
def wordOf (octets : List UInt8) : UInt32 :=
  octets.foldr (fun octet word => (word <<< 8) ||| octet.toUInt32) 0

def blockOf (octets : List UInt8) : Block :=
  let words := (batches 4 octets).map wordOf
  .ofFn fun i => words.getD i 0

/-- Compresses the blocks of a chunk up to the last, which is left to the caller. -/
def chunkFrom (counter : UInt64) (chaining : Chaining) (flags : UInt32) :
    List UInt8 → List (List UInt8) → Node
  | octets, [] =>
    ⟨chaining, blockOf octets, counter, octets.length.toUInt32, flags ||| chunkEnd⟩
  | octets, next :: rest =>
    let node : Node := ⟨chaining, blockOf octets, counter, octets.length.toUInt32, flags⟩
    chunkFrom counter node.compress 0 next rest

/-- The node of a chunk, given its place among the chunks. -/
def chunkNode (octets : List UInt8) (counter : Nat) : Node :=
  match batches 64 octets with
  | [] => chunkFrom counter.toUInt64 startValue chunkStart [] []
  | block :: rest => chunkFrom counter.toUInt64 startValue chunkStart block rest

/-- The node over two subtrees. -/
def parentNode (left right : Chaining) : Node :=
  ⟨startValue, .ofFn fun i => (left ++ right)[i], 0, 64, parent⟩

/-- The greatest power of two below `n`, for `n` at least two: the size of a left subtree. -/
def leftSize (n : Nat) : Nat := 1 <<< (n - 1).log2

theorem leftSize_lt {n : Nat} (h : 2 ≤ n) : leftSize n < n := by
  have := Nat.log2_self_le (n := n - 1) (by omega)
  simp only [leftSize, Nat.one_shiftLeft]; omega

theorem leftSize_pos (n : Nat) : 0 < leftSize n := by
  rw [leftSize, Nat.one_shiftLeft]; exact Nat.pow_pos (by decide)

/-- The tree over a first node and the nodes after it. -/
def treeNode (nodes : List Node) (first : Node) : Node :=
  match nodes with
  | [] => first
  | second :: rest =>
    let all := first :: second :: rest
    let cut := leftSize all.length
    match _left : all.take cut, _right : all.drop cut with
    | l :: ls, r :: rs => parentNode (treeNode ls l).compress (treeNode rs r).compress
    | _, _ => first
termination_by nodes.length
decreasing_by
  all_goals
    have : leftSize (rest.length + 2) < rest.length + 2 := leftSize_lt (by omega)
    have := leftSize_pos (rest.length + 2)
    have lefts := congrArg List.length _left
    have rights := congrArg List.length _right
    simp only [all, cut, List.length_take, List.length_drop, List.length_cons] at lefts rights ⊢
    omega

/-- The octets of a word, the lowest first. -/
def octetsOf (word : UInt32) : List UInt8 :=
  [word.toUInt8, (word >>> 8).toUInt8, (word >>> 16).toUInt8, (word >>> 24).toUInt8]

/-- The first 32 octets of the BLAKE3 output. -/
def blake3 (octets : List UInt8) : List UInt8 :=
  let top :=
    match (batches 1024 octets).zipIdx.map fun chunk => chunkNode chunk.1 chunk.2 with
    | [] => chunkNode [] 0
    | first :: rest => treeNode rest first
  ({ top with flags := top.flags ||| root }).compress.toList.flatMap octetsOf

end Messenger.Digest
