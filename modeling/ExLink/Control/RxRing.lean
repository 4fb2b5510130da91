/-
# The control channel's receive ring

The lock-free ring of `usb_if_ctrl.c` between the OUT callback and the dispatch
thread. Its indices are masked by a power of two, which is the wrapped successor
of the ring library at 8192 cells.
-/

import ExLink.Data.Bytes
import ExLink.Data.Ring

namespace ExLink.Control

/-- `EXLINK_RX_RING_SIZE`. -/
def exlinkRxRingSize : ℕ := 8192

/-- `s_rx_ring`, `s_rx_head`, `s_rx_tail` and `s_rx_dropped`. -/
structure RxRing where
  ring : Ring Byte exlinkRxRingSize
  dropped : Word32

/-- `rx_ring_put`: the first byte that meets a full ring is counted, and it and
the rest of the packet are lost. -/
def rxRingPut : List Byte → RxRing → RxRing
  | [], rx => rx
  | byte :: rest, rx =>
      if rx.ring.Full then { rx with dropped := rx.dropped + 1#32 }
      else rxRingPut rest { rx with ring := rx.ring.push byte }

@[simp]
theorem rxRingPut_nil (rx : RxRing) : rxRingPut [] rx = rx := rfl

/-- A packet is appended as far as there is room. -/
theorem contents_rxRingPut_take (data : List Byte) (rx : RxRing) :
    (rxRingPut data rx).ring.contents =
      rx.ring.contents ++ data.take (exlinkRxRingSize - 1 - rx.ring.contents.length) := by
  induction data generalizing rx with
  | nil => simp
  | cons byte rest ih =>
      have hsize := rx.ring.size_lt
      rw [rxRingPut, Ring.length_contents]
      by_cases hfull : rx.ring.Full
      · have hroom : exlinkRxRingSize - 1 - rx.ring.size = 0 := by
          have := rx.ring.full_iff_size.mp hfull
          omega
        rw [if_pos hfull, hroom, List.take_zero, List.append_nil]
      · have hroom : exlinkRxRingSize - 1 - rx.ring.size =
            exlinkRxRingSize - 1 - (rx.ring.size + 1) + 1 := by
          have := mt rx.ring.full_iff_size.mpr hfull
          omega
        rw [if_neg hfull, ih, Ring.length_contents, Ring.size_push hfull,
          Ring.contents_push hfull, hroom, List.take_succ_cons, List.append_assoc]
        rfl

/-- A packet during which nothing is dropped is appended whole. -/
theorem contents_rxRingPut {data : List Byte} {rx : RxRing}
    (kept : (rxRingPut data rx).dropped = rx.dropped) :
    (rxRingPut data rx).ring.contents = rx.ring.contents ++ data := by
  induction data generalizing rx with
  | nil => simp
  | cons byte rest ih =>
      by_cases hfull : rx.ring.Full
      · rw [rxRingPut, if_pos hfull] at kept
        simp at kept
      · rw [rxRingPut, if_neg hfull] at kept ⊢
        rw [ih kept, Ring.contents_push hfull, List.append_assoc]
        rfl

/-- A packet for which there is room meets no full ring. -/
theorem dropped_rxRingPut {data : List Byte} {rx : RxRing}
    (room : rx.ring.contents.length + data.length < exlinkRxRingSize) :
    (rxRingPut data rx).dropped = rx.dropped := by
  induction data generalizing rx with
  | nil => rfl
  | cons byte rest ih =>
      rw [List.length_cons] at room
      have hroom : ¬ rx.ring.Full := by
        rw [Ring.full_iff_size, ← Ring.length_contents]
        omega
      rw [rxRingPut, if_neg hroom]
      refine ih ?_
      rw [Ring.contents_push hroom, List.length_append, List.length_singleton]
      omega

end ExLink.Control
