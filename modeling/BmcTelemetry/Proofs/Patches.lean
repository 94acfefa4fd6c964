import BmcTelemetry.Request
import BmcTelemetry.Proofs.Bytes
import Mathlib.Data.List.Induction
import Mathlib.Data.List.Perm.Basic
import Mathlib.Data.List.Pairwise
import Mathlib.Order.Nat

/-!
Requests that are patched again and again: the last patch over a position decides its byte.

One patch writes over what was there, and a run of patches is followed from its end. So patches
that share no position may come in any order, and a run that is made once more changes nothing.
-/

namespace BmcTelemetry

/-- Bytes that are written over others, from an offset on. -/
structure Patch where
  /-- The position of the first byte. -/
  offset : Nat
  /-- The bytes to write. -/
  bytes : Bytes
deriving DecidableEq, Repr

namespace Patch

/-- The position behind the last byte. -/
def stop (patch : Patch) : Nat :=
  patch.offset + patch.bytes.length

/-- A position is written over. -/
def Covers (patch : Patch) (position : Nat) : Prop :=
  patch.offset ≤ position ∧ position < patch.stop

instance (patch : Patch) (position : Nat) : Decidable (patch.Covers position) :=
  inferInstanceAs (Decidable (_ ∧ _))

/-- The byte that is written at a position. -/
def byteAt (patch : Patch) (position : Nat) : UInt8 :=
  patch.bytes.byteAt (position - patch.offset)

/-- No position is written over by both. -/
def Disjoint (first second : Patch) : Prop :=
  ∀ position, ¬ (first.Covers position ∧ second.Covers position)

/-- Patches share their positions with each other, whichever is named first. -/
instance : Std.Symm Disjoint where
  symm _ _ disjoint position := fun both => disjoint position both.symm

/-- Patches one of which ends before the other begins share no position. -/
theorem Disjoint.of_stop_le {first second : Patch}
    (apart : first.stop ≤ second.offset ∨ second.stop ≤ first.offset) :
    first.Disjoint second := by
  -- A position under both patches would stand in front of the end of one and behind its beginning.
  rintro position ⟨⟨firstBegins, firstEnds⟩, secondBegins, secondEnds⟩
  omega

/-- The last of some patches that covers a position. -/
def last? (patches : List Patch) (position : Nat) : Option Patch :=
  (patches.filter (·.Covers position)).getLast?

/-- A patch at the end is the last one over the positions it covers, and over no others. -/
theorem last?_concat (patches : List Patch) (patch : Patch) (position : Nat) :
    last? (patches ++ [patch]) position =
      if patch.Covers position then some patch else last? patches position := by
  by_cases covers : patch.Covers position <;> simp [last?, covers]

end Patch

namespace Request

variable (request : Request) (patches : List Patch)

/-- The same request with patches made one after another. -/
def patchedAll : Request :=
  patches.foldl (fun patched patch => patched.patched patch.offset patch.bytes) request

/-- A run that goes on is made on what came of the first part of it. -/
theorem patchedAll_append (further : List Patch) :
    request.patchedAll (patches ++ further) = (request.patchedAll patches).patchedAll further :=
  -- The run is a fold, which is made on the two parts one after another.
  List.foldl_append

/-- A run of patches leaves the address alone. -/
theorem patchedAll_target :
    (request.patchedAll patches).channel = request.channel ∧
      (request.patchedAll patches).slave = request.slave := by
  -- Each patch writes over the data alone.
  induction patches generalizing request with
  | nil => exact ⟨rfl, rfl⟩
  | cons patch rest ih => exact ih (request.patched patch.offset patch.bytes)

variable {request patches} in
/-- Runs of patches that leave the same bytes leave the same request. -/
theorem patchedAll_eq_of_data {others : List Patch}
    (same : (request.patchedAll patches).data = (request.patchedAll others).data) :
    request.patchedAll patches = request.patchedAll others := by
  -- The address never changes, so that only the data could tell the requests apart.
  obtain ⟨channel, slave⟩ := request.patchedAll_target patches
  obtain ⟨otherChannel, otherSlave⟩ := request.patchedAll_target others
  rw [Request.mk.injEq]
  exact ⟨same, channel.trans otherChannel.symm, slave.trans otherSlave.symm⟩

/-- The data is as long as it was, or reaches as far as the patch that reaches farthest. -/
theorem max?_stops :
    (request.data.length :: patches.map Patch.stop).max?
      = some (request.patchedAll patches).data.length := by
  -- The greatest of the ends is gathered from the left, in the order in which the patches are made.
  rw [List.max?_cons', Option.some.injEq]
  induction patches generalizing request with
  | nil => rfl
  | cons patch rest ih =>
    rw [List.map_cons, List.foldl_cons, patchedAll, List.foldl_cons, ← patchedAll, ← ih]
    -- The first patch has grown the data as far as it reaches.
    rw [patched, Bytes.length_patch, Patch.stop]

/-- Data that is patched fits where it did before and all of the patches do. -/
theorem length_patchedAll_le_iff {bound : Nat} :
    (request.patchedAll patches).data.length ≤ bound ↔
      request.data.length ≤ bound ∧ ∀ patch ∈ patches, patch.stop ≤ bound := by
  -- The length is the greatest of the ends, and that fits where all of them do.
  rw [List.max?_le_iff (request.max?_stops patches)]
  simp

/-- A patch writes its bytes over the positions it covers. -/
theorem byteAt_patched (patch : Patch) (position : Nat) :
    (request.patched patch.offset patch.bytes).data.byteAt position =
      if patch.Covers position then patch.byteAt position else request.data.byteAt position :=
  request.data.byteAt_patch patch.offset patch.bytes position

/-- Each position has the byte that the last patch over it writes, or else the byte it had. -/
theorem byteAt_patchedAll (position : Nat) :
    (request.patchedAll patches).data.byteAt position =
      (Patch.last? patches position).elim (request.data.byteAt position) (·.byteAt position) := by
  -- The last patch is the one that counts, so the run is taken apart from its end.
  induction patches using List.reverseRecOn with
  | nil => rfl
  | append_singleton patches patch ih =>
    rw [patchedAll_append, Patch.last?_concat]
    -- The patch decides what it covers, and everything else is left as the others have it.
    change ((request.patchedAll patches).patched patch.offset patch.bytes).data.byteAt position = _
    rw [byteAt_patched, ih]
    split <;> rfl

/-- Two patches that share no position may change places. -/
theorem patched_comm {first second : Patch} (disjoint : first.Disjoint second) :
    (request.patched first.offset first.bytes).patched second.offset second.bytes
      = (request.patched second.offset second.bytes).patched first.offset first.bytes := by
  -- The address is left alone, so that the data decides, by its length and byte by byte.
  rw [Request.mk.injEq]
  refine ⟨Bytes.ext_byteAt ?_ fun position => ?_, rfl, rfl⟩
  · simp only [patched, Bytes.length_patch]
    omega
  · -- No position is covered by both, so that it does not matter which one is asked first.
    have apart := disjoint position
    simp only [byteAt_patched]
    split
    · next covered => rw [if_neg fun both => apart ⟨both, covered⟩]
    -- Where the second patch does not reach, both orders ask the first one and then the data.
    · rfl

/-- Patches no two of which share a position may come in any order. -/
theorem patchedAll_perm {others : List Patch} (perm : patches.Perm others)
    (disjoint : patches.Pairwise Patch.Disjoint) :
    request.patchedAll patches = request.patchedAll others := by
  -- A permutation does not matter to a fold whose steps change places, which disjoint patches do.
  apply perm.foldl_eq'
  intro first firstMember second secondMember patched
  by_cases same : first = second
  -- A patch makes the same run with itself, whether or not it shares positions with itself.
  · rw [same]
  · exact patched.patched_comm (disjoint.forall firstMember secondMember same)

/-- A run of patches that is made again changes nothing. -/
theorem patchedAll_again :
    (request.patchedAll patches).patchedAll patches = request.patchedAll patches := by
  -- Two runs in a row are one run, whose bytes are compared with those of the first run alone.
  rw [← patchedAll_append]
  apply patchedAll_eq_of_data
  rw [patchedAll_append]
  apply Bytes.ext_byteAt
  · -- The patches fit already, and without them the data would not have grown so far.
    apply eq_of_forall_ge_iff
    intro bound
    rw [length_patchedAll_le_iff, length_patchedAll_le_iff, and_assoc, and_self]
  -- A position that some patch covers gets its byte again, and any other one is never written.
  · intro position
    rw [byteAt_patchedAll, byteAt_patchedAll]
    cases Patch.last? patches position <;> rfl

/-- However often a run of patches is repeated, only the first time counts. -/
theorem patchedAll_repeated (times : Nat) :
    request.patchedAll (List.replicate (times + 1) patches).flatten
      = request.patchedAll patches := by
  -- Each repetition in front leaves what the first run would, by the law for making it twice.
  induction times generalizing request with
  | zero => simp
  | succ times ih =>
    rw [List.replicate_succ, List.flatten_cons, patchedAll_append, ih, patchedAll_again]

/--
Patches that are made one after another leave each position with the byte of the last one over it.

The request grows as far as the farthest patch reaches, with zeros where nothing else is, and its
address stays. The order matters for patches over shared positions alone, and repeating them never.
-/
theorem patchedAll_lastWins :
    let patched := request.patchedAll patches
    (request.data.length :: patches.map Patch.stop).max? = some patched.data.length ∧
    (∀ position < patched.data.length, patched.data[position]? =
      some ((Patch.last? patches position).elim (request.data[position]?.getD 0)
        (·.byteAt position))) ∧
    patched.channel = request.channel ∧ patched.slave = request.slave ∧
    (∀ others : List Patch, patches.Perm others → patches.Pairwise Patch.Disjoint →
      request.patchedAll others = patched) ∧
    ∀ times, request.patchedAll (List.replicate (times + 1) patches).flatten = patched := by
  -- Each part of the statement is a law of runs from above.
  intro patched
  obtain ⟨channel, slave⟩ := request.patchedAll_target patches
  refine ⟨request.max?_stops patches, fun position inside => ?_, channel, slave,
    fun others perm disjoint => (request.patchedAll_perm patches perm disjoint).symm,
    request.patchedAll_repeated patches⟩
  -- Inside the data, the byte at a position is the one the last patch over it has written.
  rw [Bytes.getElem?_eq_byteAt inside, request.byteAt_patchedAll patches position, Bytes.byteAt]

/-- Patches that leave gaps come in any order, and the gap between them is filled with a zero. -/
theorem patchedAll_lastWins_gaps :
    let request := Request.direct [0x0a, 0x23]
    let patches : List Patch := [⟨6, [0x08]⟩, ⟨2, [0x34, 0x12, 0x01]⟩, ⟨1, [0x11]⟩]
    (request.patchedAll patches.reverse).data = [0x0a, 0x11, 0x34, 0x12, 0x01, 0x00, 0x08] ∧
      (request.patchedAll patches).data[5]? = some 0x00 := by
  intro request patches
  obtain ⟨_, bytes, _, _, ordered, _⟩ := request.patchedAll_lastWins patches
  -- The ends and beginnings are far enough apart, which can be checked patch by patch.
  have disjoint : patches.Pairwise Patch.Disjoint := by
    have apart : patches.Pairwise fun first second =>
        first.stop ≤ second.offset ∨ second.stop ≤ first.offset := by decide
    exact apart.imp Patch.Disjoint.of_stop_le
  constructor
  -- The order of the patches does not matter, so that the given one can be evaluated.
  · rw [ordered _ patches.reverse_perm.symm disjoint]
    rfl
  · exact bytes 5 (by decide)

end Request

end BmcTelemetry
