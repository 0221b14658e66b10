/-!
The hash function BLAKE3 with its default output of 32 bytes. The input is cut into chunks of 1024
bytes and these into blocks of 64. Each block is compressed with the chaining value so far; the
last block of a chunk, and each pair of neighbouring subtrees, is a node of a binary tree, and the
root node gives the output.
-/
namespace ShippingRules.Blake3

abbrev Words (n : Nat) := Vector UInt32 n

/-- The first eight words of every chunk's chaining and of every parent node. -/
def initialValue : Words 8 :=
  #v[0x6a09e667, 0xbb67ae85, 0x3c6ef372, 0xa54ff53a, 0x510e527f, 0x9b05688c, 0x1f83d9ab, 0x5be0cd19]

/-- The order in which the words of a block enter the next round. -/
def permutation : Vector (Fin 16) 16 :=
  #v[2, 6, 3, 10, 7, 0, 4, 13, 1, 11, 12, 5, 9, 14, 15, 8]

def permute (block : Words 16) : Words 16 := permutation.map fun i => block[i]

def rotateRight (x : UInt32) (count : UInt32) : UInt32 := (x >>> count) ||| (x <<< (32 - count))

/-- Mix two block words into a column or diagonal of the state. -/
def mix (v : Words 16) (a b c d : Fin 16) (x y : UInt32) : Words 16 :=
  let v := v.set a (v[a] + v[b] + x)
  let v := v.set d (rotateRight (v[d] ^^^ v[a]) 16)
  let v := v.set c (v[c] + v[d])
  let v := v.set b (rotateRight (v[b] ^^^ v[c]) 12)
  let v := v.set a (v[a] + v[b] + y)
  let v := v.set d (rotateRight (v[d] ^^^ v[a]) 8)
  let v := v.set c (v[c] + v[d])
  v.set b (rotateRight (v[b] ^^^ v[c]) 7)

def round (v block : Words 16) : Words 16 :=
  let v := mix v 0 4 8 12 block[0] block[1]
  let v := mix v 1 5 9 13 block[2] block[3]
  let v := mix v 2 6 10 14 block[4] block[5]
  let v := mix v 3 7 11 15 block[6] block[7]
  let v := mix v 0 5 10 15 block[8] block[9]
  let v := mix v 1 6 11 12 block[10] block[11]
  let v := mix v 2 7 8 13 block[12] block[13]
  mix v 3 4 9 14 block[14] block[15]

def rounds : Nat → Words 16 → Words 16 → Words 16
  | 0, v, _ => v
  | n + 1, v, block => rounds n (round v block) (permute block)

def chunkStart : UInt32 := 1

def chunkEnd : UInt32 := 2

def parentFlag : UInt32 := 4

def rootFlag : UInt32 := 8

/-- What one compression works on. -/
structure Node where
  chaining : Words 8
  block : Words 16
  counter : UInt64
  length : UInt32
  flags : UInt32

/-- The eight words that a compression results in. -/
def Node.compress (node : Node) (extraFlags : UInt32) : Words 8 :=
  let h := node.chaining
  let iv := initialValue
  let v := rounds 7 #v[h[0], h[1], h[2], h[3], h[4], h[5], h[6], h[7],
    iv[0], iv[1], iv[2], iv[3],
    node.counter.toUInt32, (node.counter >>> 32).toUInt32, node.length,
    node.flags ||| extraFlags] node.block
  #v[v[0] ^^^ v[8], v[1] ^^^ v[9], v[2] ^^^ v[10], v[3] ^^^ v[11],
    v[4] ^^^ v[12], v[5] ^^^ v[13], v[6] ^^^ v[14], v[7] ^^^ v[15]]

/-- The list cut into parts of the given size, the last of which may be smaller. -/
def parts (size : Nat) (positive : 0 < size) (bytes : List UInt8) : List (List UInt8) :=
  if bytes = [] then []
  else bytes.take size :: parts size positive (bytes.drop size)
termination_by bytes.length
decreasing_by
  rw [List.length_drop]
  have := List.length_pos_iff.mpr ‹bytes ≠ []›
  omega

/-- Four bytes as a word, the lowest first. -/
def word : List UInt8 → UInt32
  | [] => 0
  | byte :: rest => byte.toUInt32 ||| (word rest <<< 8)

/-- The words of a block, filled up with zeros. -/
def blockWords (bytes : List UInt8) : Words 16 :=
  let padded := (bytes ++ List.replicate (64 - bytes.length) 0).toArray
  Vector.ofFn fun i =>
    word [padded.getD (4 * i.val) 0, padded.getD (4 * i.val + 1) 0, padded.getD (4 * i.val + 2) 0,
      padded.getD (4 * i.val + 3) 0]

/-- Chain the blocks of a chunk; the last one is left as a node. -/
def chainBlocks (counter : UInt64) (chaining : Words 8) (startFlag : UInt32) :
    List (List UInt8) → Node
  | [] => ⟨chaining, blockWords [], counter, 0, startFlag ||| chunkEnd⟩
  | [last] => ⟨chaining, blockWords last, counter, last.length.toUInt32, startFlag ||| chunkEnd⟩
  | block :: rest =>
    let node : Node := ⟨chaining, blockWords block, counter, 64, startFlag⟩
    chainBlocks counter (node.compress 0) 0 rest

def chunkNode (counter : Nat) (chunk : List UInt8) : Node :=
  chainBlocks (UInt64.ofNat counter) initialValue chunkStart (parts 64 (by decide) chunk)

def parent (left right : Node) : Node :=
  ⟨initialValue, (left.compress 0 ++ right.compress 0).cast rfl, 0, 64, parentFlag⟩

/-- Join neighbouring nodes; a last one without a neighbour stays as it is. -/
def joinPairs : List Node → List Node
  | left :: right :: rest => parent left right :: joinPairs rest
  | nodes => nodes

theorem length_joinPairs_le (nodes : List Node) : (joinPairs nodes).length ≤ nodes.length := by
  fun_induction joinPairs nodes with
  | case1 left right rest ih =>
    simp only [List.length_cons]
    omega
  | case2 => exact Nat.le_refl _

/-- The root over a first node and its neighbours to the right. -/
def rootNode (first : Node) (others : List Node) : Node :=
  match others with
  | [] => first
  | second :: rest => rootNode (parent first second) (joinPairs rest)
termination_by others.length
decreasing_by
  have := length_joinPairs_le rest
  simp only [List.length_cons]
  omega

/-- A hash value. -/
structure Digest where
  bytes : List UInt8
  length_eq : bytes.length = 32
deriving DecidableEq

def wordBytes (x : UInt32) : List UInt8 :=
  [x.toUInt8, (x >>> 8).toUInt8, (x >>> 16).toUInt8, (x >>> 24).toUInt8]

def digestOf (words : Words 8) : Digest :=
  ⟨wordBytes words[0] ++ wordBytes words[1] ++ wordBytes words[2] ++ wordBytes words[3] ++
    wordBytes words[4] ++ wordBytes words[5] ++ wordBytes words[6] ++ wordBytes words[7], rfl⟩

/-- The nodes of the chunks, counted from the given number. -/
def chunkNodes (counter : Nat) : List (List UInt8) → List Node
  | [] => []
  | chunk :: rest => chunkNode counter chunk :: chunkNodes (counter + 1) rest

/-- The root's counter is zero: a chunk that is the root is chunk zero, and parents count
nothing. -/
def hash (bytes : List UInt8) : Digest :=
  let root := match chunkNodes 0 (parts 1024 (by decide) bytes) with
    | [] => chunkNode 0 []
    | first :: others => rootNode first others
  digestOf (root.compress rootFlag)

end ShippingRules.Blake3
