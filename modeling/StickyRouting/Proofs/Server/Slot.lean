import StickyRouting.Proofs.RouteKey
import StickyRouting.Proofs.Text.ByteOrder
import StickyRouting.Server.Client
import StickyRouting.View

set_option autoImplicit false

namespace StickyRouting

namespace Text

variable {α : Type} [DecidableEq α]

/-- What stands between the first opening mark and the first closing mark after it. -/
def between? (opening closing : α) (text : List α) : Option (List α) :=
  match text.dropWhile (· ≠ opening) with
  | [] => none
  | _ :: rest => if closing ∈ rest then some (rest.takeWhile (· ≠ closing)) else none

theorem between?_append {opening closing : α} {before inner : List α} (unopened : opening ∉ before)
    (unclosed : closing ∉ inner) (rest : List α) :
    between? opening closing (before ++ opening :: (inner ++ closing :: rest)) = some inner := by
  have passed : ∀ mark ∈ before, decide (mark ≠ opening) = true := by
    intro mark member
    exact decide_eq_true fun same => unopened (same ▸ member)
  have within : ∀ mark ∈ inner, decide (mark ≠ closing) = true := by
    intro mark member
    exact decide_eq_true fun same => unclosed (same ▸ member)
  have opened : (before ++ opening :: (inner ++ closing :: rest)).dropWhile (· ≠ opening) =
      opening :: (inner ++ closing :: rest) := by
    rw [List.dropWhile_append_of_pos passed]
    simp
  have closed : (inner ++ closing :: rest).takeWhile (· ≠ closing) = inner := by
    rw [List.takeWhile_append_of_pos within]
    simp
  rw [between?, opened]
  simp only [List.mem_append, List.mem_cons_self, or_true, if_true, closed]

end Text

namespace RouteKey

theorem escape_injective {a b : List Char} (same : escape a = escape b) : a = b := by
  have read := unescape?_escape a
  rw [same, unescape?_escape] at read
  exact (Option.some.inj read).symm

theorem escape_ne_nil {text : List Char} (filled : text ≠ []) : escape text ≠ [] := by
  have letters := List.length_pos_iff.2 filled
  have longer := length_le_length_escape text
  exact List.length_pos_iff.1 (by omega)

theorem exists_braces (key : RouteKey) : ∃ before rest,
    key.encodeChars = before ++ '{' :: (escape key.partition.toList ++ '}' :: rest) ∧ '{' ∉ before := by
  -- No brace stands before those of the partition: the escaped namespace has none.
  refine ⟨'r' :: '_' :: escape key.space.toList ++ ['_'],
    '_' :: braced (Text.Numeral.writeInt key.objectId.toInt), ?_, ?_⟩
  · simp [encodeChars, braced]
  · have absent := not_mem_escape (.inr (.inl rfl)) key.space.toList
    simp [absent]

theorem between?_encode (key : RouteKey) :
    Text.between? '{' '}' key.encode.toList = some (escape key.partition.toList) := by
  obtain ⟨before, rest, shape, unopened⟩ := exists_braces key
  rw [encode, String.toList_ofList, shape]
  exact Text.between?_append unopened (not_mem_escape (.inr (.inr rfl)) _) rest

theorem between?_encode_eq_iff (a b : RouteKey) :
    Text.between? '{' '}' a.encode.toList = Text.between? '{' '}' b.encode.toList ↔
      a.partition = b.partition := by
  rw [between?_encode, between?_encode, Option.some_inj]
  constructor
  · intro same
    exact String.toList_inj.1 (escape_injective same)
  · intro same
    rw [same]

end RouteKey

namespace Server

open Text.Utf8 (encode)

/-- A cluster goes by what the first braces of a key hold, or by the whole key if they hold nothing. -/
def hashed (key : List UInt8) : List UInt8 :=
  match Text.between? 0x7B 0x7D key with
  | some (byte :: more) => byte :: more
  | _ => key

def slot (checksum : List UInt8 → UInt16) (key : String) : Nat :=
  (checksum (hashed (Keyspace.bytes key))).toNat % 16384

theorem between?_bytes (key : RouteKey) :
    Text.between? 0x7B 0x7D (Keyspace.bytes key.encode) =
      some (encode (RouteKey.escape key.partition.toList)) := by
  obtain ⟨before, rest, shape, unopened⟩ := key.exists_braces
  have bytes : Keyspace.bytes key.encode =
      encode before ++ 0x7B :: (encode (RouteKey.escape key.partition.toList) ++ 0x7D :: encode rest) := by
    rw [Keyspace.bytes, RouteKey.encode, String.toList_ofList, shape]
    simp only [encode, List.flatMap_append, List.flatMap_cons]
    rfl
  rw [bytes]
  -- No part of a longer character is taken for a brace.
  refine Text.between?_append (fun member => unopened ?_) (fun member => ?_) _
  · exact Text.Utf8.mem_of_mem_encode (by decide) rfl member
  · have closing : '}' ∈ RouteKey.escape key.partition.toList :=
      Text.Utf8.mem_of_mem_encode (by decide) rfl member
    exact RouteKey.not_mem_escape (.inr (.inr rfl)) _ closing

theorem slot_encode (checksum : List UInt8 → UInt16) {key : RouteKey} (filled : key.partition ≠ "") :
    slot checksum key.encode =
      (checksum (encode (RouteKey.escape key.partition.toList))).toNat % 16384 := by
  have letters : key.partition.toList ≠ [] := mt String.toList_eq_nil_iff.1 filled
  obtain ⟨byte, more, written⟩ :=
    List.exists_cons_of_ne_nil (Text.Utf8.encode_ne_nil (RouteKey.escape_ne_nil letters))
  rw [slot, hashed, between?_bytes, written]

theorem Link.sent_send (link : Link) (now : Nat) (command : Command) :
    (link.send now command).2.sent = link.sent ++ [command.words] := by
  unfold Link.send
  split <;> rfl

theorem sent_callAll (view : View) (partition : String) (objectIds : List Int64) (now : Nat) (link : Link) :
    (perform now (view.callAll partition objectIds) link).2.sent =
      link.sent ++ if objectIds = [] then [] else ["MGET" :: objectIds.map (view.key partition)] := by
  cases objectIds with
  | nil => simp [View.callAll, perform]
  | cons objectId more => simp [View.callAll, perform, Link.sent_send, Command.words]

/-- Whatever checksum a cluster takes, all keys of a partition that is not empty are in one slot, and
what a view asks for its objects is one request for keys of that slot. -/
theorem partition_decides_slot (space partition : String) (objectId : Int64) :
    let key := RouteKey.encode ⟨space, partition, objectId⟩
    Text.between? '{' '}' key.toList = some (RouteKey.escape partition.toList) ∧
      (∀ other : RouteKey, Text.between? '{' '}' other.encode.toList = Text.between? '{' '}' key.toList ↔
        other.partition = partition) ∧
      (partition ≠ "" → ∀ checksum,
        (∀ other : RouteKey, other.partition = partition → slot checksum other.encode = slot checksum key) ∧
        ∀ (view : View) (objectIds : List Int64) now link,
          (perform now (view.callAll partition objectIds) link).2.sent = link.sent ++
              (if objectIds = [] then [] else ["MGET" :: objectIds.map (view.key partition)]) ∧
            ∀ asked ∈ objectIds.map (view.key partition), slot checksum asked = slot checksum key) := by
  intro key
  refine ⟨RouteKey.between?_encode _, fun other => RouteKey.between?_encode_eq_iff _ _, ?slots⟩
  case slots =>
    intro filled checksum
    have together (other : RouteKey) (same : other.partition = partition) :
        slot checksum other.encode = slot checksum key := by
      rw [slot_encode checksum (same ▸ filled), same, slot_encode checksum filled]
    refine ⟨together, fun view objectIds now link => ⟨sent_callAll .., fun asked member => ?_⟩⟩
    obtain ⟨other, -, rfl⟩ := List.mem_map.1 member
    exact together _ rfl

def shifted (sum : UInt16) : UInt16 :=
  if sum < 0x8000 then sum <<< 1 else (sum <<< 1) ^^^ 0x1021

def absorb (sum : UInt16) (byte : UInt8) : UInt16 :=
  Nat.repeat shifted 8 (sum ^^^ (byte.toUInt16 <<< 8))

/-- The checksum that servers take: the remainder by the polynomial 0x1021, bit by bit. -/
def crc16 (bytes : List UInt8) : UInt16 := bytes.foldl absorb 0

theorem partition_decides_slot_braces :
    let partition := "\x7d_\x7b"
    let view := View.make .readOnly "room"
    let key := RouteKey.encode ⟨"\x7bred\x7d", partition, -1⟩
    partition ≠ "" ∧ key = "r_%7Bred%7D_\x7b%7D%5F%7B\x7d_\x7b-1\x7d" ∧
      Text.between? '{' '}' key.toList = some "%7D%5F%7B".toList ∧
      slot crc16 key = 1241 ∧ slot crc16 (view.key partition 7) = 1241 ∧
      (perform 0 (view.callAll partition [7, 8]) {}).2.sent =
        [["MGET", view.key partition 7, view.key partition 8]] := by
  intro partition view key
  have filled : partition ≠ "" := by decide
  obtain ⟨held, -, slots⟩ := partition_decides_slot "\x7bred\x7d" partition (-1)
  obtain ⟨together, asked⟩ := slots filled crc16
  have place : slot crc16 key = 1241 := by decide +kernel
  exact ⟨filled, by decide +kernel, held.trans (by decide), place, (together _ rfl).trans place,
    (asked view [7, 8] 0 {}).1⟩

/-- Keys of the empty partition are spread, since a cluster goes by the whole of them. -/
example : slot crc16 "r_room_\x7b\x7d_\x7b1\x7d" ≠ slot crc16 "r_room_\x7b\x7d_\x7b2\x7d" := by
  decide +kernel

end Server

end StickyRouting
