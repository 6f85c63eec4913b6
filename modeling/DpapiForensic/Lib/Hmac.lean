import DpapiForensic.Lib.Bytes

/-!
# HMAC and collisions

HMAC spelled out over the hash it is made of, and what equal codes say: equal messages, or a collision
among the messages that were hashed on the way. The collision is an explicit one, because that some
collision exists is true of every hash.
-/

namespace DpapiForensic

section Collisions

variable {α β : Type*} (hash : α → β)

/-- Two messages, one hashed in each of two computations, differ and have one hash. -/
def CollideIn (hashed hashed' : List α) : Prop :=
  ∃ m ∈ hashed, ∃ m' ∈ hashed', m ≠ m' ∧ hash m = hash m'

variable {hash} {hashed hashed' : List α} {m m' : α}

theorem eq_or_collideIn (hm : m ∈ hashed) (hm' : m' ∈ hashed') (h : hash m = hash m') :
    m = m' ∨ CollideIn hash hashed hashed' := by
  by_cases heq : m = m'
  · exact Or.inl heq
  · exact Or.inr ⟨m, hm, m', hm', heq, h⟩

end Collisions

namespace Hmac

variable {n : Nat} (hash : Bytes → Vector UInt8 n) (blockLen : Nat) (key : Bytes)

/-- The key filled to a block with zeros; one that is longer than a block is hashed first. -/
def keyBlock : Bytes :=
  let key := if key.length ≤ blockLen then key else (hash key).toList
  key ++ List.replicate (blockLen - key.length) 0

/-- A message behind the key block under a mask. -/
def masked (mask : UInt8) (msg : Bytes) : Bytes :=
  (keyBlock hash blockLen key).map (· ^^^ mask) ++ msg

def inner (msg : Bytes) : Bytes := masked hash blockLen key 0x36 msg

def innerHash (msg : Bytes) : Bytes := (hash (inner hash blockLen key msg)).toList

def outer (msg : Bytes) : Bytes := masked hash blockLen key 0x5c msg

def mac (msg : Bytes) : Vector UInt8 n := hash (outer hash blockLen key (innerHash hash blockLen key msg))

/-- What is hashed on the way to a code. -/
def hashed (msg : Bytes) : List Bytes :=
  [inner hash blockLen key msg, outer hash blockLen key (innerHash hash blockLen key msg)]

variable {hash} {blockLen} {key} {key' msg msg' : Bytes}

@[simp] theorem length_innerHash : (innerHash hash blockLen key msg).length = n := by
  simp [innerHash]

theorem keyBlock_of_le (hkey : key.length ≤ blockLen) :
    keyBlock hash blockLen key = key ++ List.replicate (blockLen - key.length) 0 := by
  rw [keyBlock, if_pos hkey]

/-- Behind a mask, both the key and the message can be read off, for keys of one length that fit a block. -/
theorem masked_inj (hkey : key.length ≤ blockLen) (hlen : key.length = key'.length) {mask : UInt8}
    (h : masked hash blockLen key mask msg = masked hash blockLen key' mask msg') :
    key = key' ∧ msg = msg' := by
  rw [masked, masked, keyBlock_of_le hkey, keyBlock_of_le (hlen ▸ hkey)] at h
  obtain ⟨hblock, hmsg⟩ := List.append_inj h (by simp [hlen])
  have hblock := (List.map_inj_right fun _ _ => (UInt8.xor_left_inj mask).mp).mp hblock
  exact ⟨(List.append_inj hblock hlen).1, hmsg⟩

theorem inner_mem_hashed : inner hash blockLen key msg ∈ hashed hash blockLen key msg :=
  List.mem_cons_self

theorem outer_mem_hashed :
    outer hash blockLen key (innerHash hash blockLen key msg) ∈ hashed hash blockLen key msg :=
  List.mem_cons_of_mem _ List.mem_cons_self

/-- Equal codes are codes of one message under one key, or two of the messages hashed collide. -/
theorem eq_or_collideIn_of_mac (hkey : key.length ≤ blockLen) (hlen : key.length = key'.length)
    (h : mac hash blockLen key msg = mac hash blockLen key' msg') :
    (key = key' ∧ msg = msg') ∨
      CollideIn hash (hashed hash blockLen key msg) (hashed hash blockLen key' msg') := by
  rcases eq_or_collideIn outer_mem_hashed outer_mem_hashed h with houter | hcollide
  · have hdigest := Vector.toList_inj.mp (masked_inj hkey hlen houter).2
    exact (eq_or_collideIn inner_mem_hashed inner_mem_hashed hdigest).imp_left (masked_inj hkey hlen)
  · exact Or.inr hcollide

end Hmac

end DpapiForensic
