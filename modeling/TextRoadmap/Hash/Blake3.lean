/-
TextRoadmap/Hash/Blake3.lean

The BLAKE3 hash function, in its plain mode.

The message is cut into chunks of 1024 bytes and each chunk into blocks of
64.  A chunk chains the compression of its blocks; the chunks are the leaves
of a binary tree whose inner nodes compress the two values below them.  The
last compression, of the root, gives the hash.
-/

namespace TextRoadmap.Hash.Blake3

/-! ### Compression -/

/-- The words with which every chain begins. -/
def initial : Vector UInt32 8 :=
  #v[0x6a09e667, 0xbb67ae85, 0x3c6ef372, 0xa54ff53a,
     0x510e527f, 0x9b05688c, 0x1f83d9ab, 0x5be0cd19]

/-- The order in which the next round takes the words of the block. -/
def permutation : Vector (Fin 16) 16 :=
  #v[2, 6, 3, 10, 7, 0, 4, 13, 1, 11, 12, 5, 9, 14, 15, 8]

/-- The word turned right by `bits` places. -/
def rotateRight (word : UInt32) (bits : UInt32) : UInt32 :=
  (word >>> bits) ||| (word <<< (32 - bits))

/-- Mix two words of the message into four words of the state. -/
def quarter (state : Vector UInt32 16) (a b c d : Fin 16) (x y : UInt32) :
    Vector UInt32 16 :=
  let va := state[a] + state[b] + x
  let vd := rotateRight (state[d] ^^^ va) 16
  let vc := state[c] + vd
  let vb := rotateRight (state[b] ^^^ vc) 12
  let va := va + vb + y
  let vd := rotateRight (vd ^^^ va) 8
  let vc := vc + vd
  let vb := rotateRight (vb ^^^ vc) 7
  (((state.set a va).set b vb).set c vc).set d vd

/-- One round: the four columns of the state, then its four diagonals. -/
def round (state block : Vector UInt32 16) : Vector UInt32 16 :=
  let state := quarter state 0 4 8 12 block[0] block[1]
  let state := quarter state 1 5 9 13 block[2] block[3]
  let state := quarter state 2 6 10 14 block[4] block[5]
  let state := quarter state 3 7 11 15 block[6] block[7]
  let state := quarter state 0 5 10 15 block[8] block[9]
  let state := quarter state 1 6 11 12 block[10] block[11]
  let state := quarter state 2 7 8 13 block[12] block[13]
  quarter state 3 4 9 14 block[14] block[15]

/-- So many rounds, each with the words of the block in a new order. -/
def rounds : Nat → (state block : Vector UInt32 16) → Vector UInt32 16
  | 0, state, _ => state
  | n + 1, state, block =>
    rounds n (round state block) (permutation.map fun i => block[i])

/-- What one compression is given. -/
structure Node where
  chain : Vector UInt32 8
  block : Vector UInt32 16
  counter : Nat
  size : Nat
  flags : UInt32

/-- The first eight words that the compression of the node yields. -/
def Node.compress (node : Node) : Vector UInt32 8 :=
  let state : Vector UInt32 16 :=
    #v[node.chain[0], node.chain[1], node.chain[2], node.chain[3],
       node.chain[4], node.chain[5], node.chain[6], node.chain[7],
       initial[0], initial[1], initial[2], initial[3],
       UInt32.ofNat node.counter, UInt32.ofNat (node.counter / 0x100000000),
       UInt32.ofNat node.size, node.flags]
  let mixed := rounds 7 state node.block
  Vector.ofFn fun i : Fin 8 => mixed[i.val] ^^^ mixed[i.val + 8]

/-- The flag of the first block of a chunk. -/
def chunkStart : UInt32 := 1

/-- The flag of the last block of a chunk. -/
def chunkEnd : UInt32 := 2

/-- The flag of an inner node. -/
def parentNode : UInt32 := 4

/-- The flag of the root. -/
def rootNode : UInt32 := 8

/-! ### Chunks -/

/-- The bytes in groups of `size`, the last of which may be shorter; there is
at least one group. -/
def groups (size : Nat) (bytes : List UInt8) : List (List UInt8) :=
  (List.range (max 1 ((bytes.length + size - 1) / size))).map fun i =>
    (bytes.drop (i * size)).take size

/-- Four bytes as a word, the first byte lowest; missing bytes are zero. -/
def word (bytes : List UInt8) (i : Nat) : UInt32 :=
  (List.range 4).foldr (fun k w => w * 256 + (bytes.getD (4 * i + k) 0).toUInt32) 0

/-- Sixty-four bytes as sixteen words. -/
def blockOf (bytes : List UInt8) : Vector UInt32 16 :=
  Vector.ofFn fun i : Fin 16 => word bytes i.val

/-- The last compression of a chunk, after the blocks before it have been
chained. -/
def chunkNode (counter : Nat) (chain : Vector UInt32 8) (flags : UInt32) :
    List (List UInt8) → Node
  | [] => ⟨chain, blockOf [], counter, 0, flags ||| chunkEnd⟩
  | [block] => ⟨chain, blockOf block, counter, block.length, flags ||| chunkEnd⟩
  | block :: rest =>
    chunkNode counter (Node.compress ⟨chain, blockOf block, counter, 64, flags⟩) 0 rest

/-- The leaf for a chunk. -/
def leaf (bytes : List UInt8) (counter : Nat) : Node :=
  chunkNode counter initial chunkStart (groups 64 bytes)

/-! ### The tree -/

/-- The node above two others. -/
def parent (left right : Node) : Node :=
  let l := left.compress
  let r := right.compress
  ⟨initial,
   #v[l[0], l[1], l[2], l[3], l[4], l[5], l[6], l[7],
      r[0], r[1], r[2], r[3], r[4], r[5], r[6], r[7]],
   0, 64, parentNode⟩

/-- Each two neighbours replaced by their parent; an odd one stays. -/
def pairUp : List Node → List Node
  | left :: right :: rest => parent left right :: pairUp rest
  | rest => rest

/-- The root above the nodes, reached in at most `levels` steps. -/
def rootAbove : (levels : Nat) → List Node → Node
  | _, [] => leaf [] 0
  | _, [node] => node
  | 0, node :: _ => node
  | levels + 1, nodes => rootAbove levels (pairUp nodes)

/-- The hash of the bytes, as eight words. -/
def hash (bytes : List UInt8) : Vector UInt32 8 :=
  let leaves := (groups 1024 bytes).zipIdx.map fun (chunk, counter) => leaf chunk counter
  let root := rootAbove leaves.length leaves
  Node.compress { root with flags := root.flags ||| rootNode }

/-- The first eight bytes of a hash as a number, least byte first. -/
def leadingNumber (digest : Vector UInt32 8) : Nat :=
  digest[0].toNat + digest[1].toNat * 0x100000000

end TextRoadmap.Hash.Blake3
