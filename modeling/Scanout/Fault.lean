/-!
# Faults: broken contracts

A fault ends the call that meets it. It is not an error a caller could have
handled but a contract that was broken, and whatever the call had taken over
is gone afterwards. Every operation says in its own result what is left.
-/

namespace Scanout

/-- A broken contract. -/
inductive Fault where
  /-- The text of a fourcc was needed whose bytes are no text. -/
  | unprintableFourcc
  /-- An image that no swapchain owns was released to a swapchain. -/
  | releasedStandalone
  /-- An image of one swapchain was released to another. -/
  | releasedForeign
  /-- An image was released into a slot that still holds one. -/
  | releasedIdle
  /-- An image names a slot that its swapchain does not have. -/
  | slotOutOfRange (slots index : Nat)
  /-- A swapchain was destroyed while images were acquired. -/
  | swapchainInUse
  /-- An allocator got back more images than it had given out. -/
  | deallocatedTooOften
  /-- A target time lies beyond the last one that can be named. -/
  | additionOverflow
  /-- A GBM buffer object reports a format that is in no table. -/
  | unknownGbmFormat (code : UInt32)
  deriving DecidableEq, Repr

def Fault.message : Fault → String
  | unprintableFourcc => "Must be valid fourcc"
  | releasedStandalone => "Released image does not belong to a swapchain"
  | releasedForeign => "Released image belongs to a different swapchain"
  | releasedIdle => "Released image was not acquired"
  | slotOutOfRange slots index =>
    s!"index out of bounds: the len is {slots} but the index is {index}"
  | swapchainInUse => "Swapchain destroyed while images are acquired"
  | deallocatedTooOften => "deallocated more images than were allocated"
  | additionOverflow => "attempt to add with overflow"
  | unknownGbmFormat code =>
    s!"libgbm returned invalid buffer format: UnrecognizedFourcc({code})"

end Scanout
