import SystemMaster.Avds.Endpoint

/-!
# Requests to an AVDS and their replies

A request is a packed structure with its fields in network order and a CRC of the
bytes from the command on, which the builders have the CRC accelerator compute. The
accelerator may be open already, or not get its lock. A reply is published when its
CRC is right for the length it claims.
-/

namespace SystemMaster.Avds.Requests

open Codec

-- ---------------------------------------------------------------------------
-- The CRC
-- ---------------------------------------------------------------------------

/-- One bit of the polynomial 0x1021, the highest first. -/
def crcBit (crc : UInt16) : UInt16 :=
  if crc &&& 0x8000 = 0 then crc <<< 1 else (crc <<< 1) ^^^ 0x1021

def crcByte (crc : UInt16) (byte : UInt8) : UInt16 :=
  Nat.repeat crcBit 8 (crc ^^^ (byte.toUInt16 <<< 8))

def crc16Ccitt (bytes : List UInt8) : UInt16 := bytes.foldl crcByte 0xFFFF

/-- The check value of the polynomial, of the digits from 1 to 9. -/
example : crc16Ccitt [0x31, 0x32, 0x33, 0x34, 0x35, 0x36, 0x37, 0x38, 0x39] = 0x29B1 := by
  decide +kernel

/-- How a use of the driver goes: whether `CRC_open` gives a handle, and whether the
calculation gets the lock. -/
structure CrcUse where
  opened : Bool
  locked : Bool

def CrcUse.computes (u : CrcUse) : Bool := u.opened && u.locked

/-- `CRC_calculateFull`: whether it succeeds, and the result, which a driver just opened
has as zero. `accelerator` is what its register holds after these bytes. -/
def calculateFull (accelerator : List UInt8 → UInt32) (u : CrcUse) (source : List UInt8) :
    Bool × UInt32 :=
  if u.locked then (true, accelerator source) else (false, 0)

def lowHalf (result : UInt32) : UInt16 := (result &&& 0x0000FFFF).toUInt16

/-- `xAVDS485Device_CRC_calculateFull`, which gives a result only when it succeeds. -/
def crcCalculateFull (accelerator : List UInt8 → UInt32) (u : CrcUse) (source : List UInt8) :
    Option UInt16 :=
  if u.opened then
    match calculateFull accelerator u source with
    | (true, result) => some (lowHalf result)
    | (false, _) => none
  else none

-- ---------------------------------------------------------------------------
-- Requests
-- ---------------------------------------------------------------------------

inductive Request where
  | initializeCommunications
  | ping
  | setChannel (outputChannel audioInputChannel videoInputChannel : UInt16)
  | getChannel (outputChannel : UInt16)
  | setControlProperty (outputChannel : UInt16) (property : UInt8) (value : UInt32)
  | getControlProperty (outputChannel : UInt16) (property : UInt8)
  deriving DecidableEq

namespace Request

-- `AVDS485Device_property`
def propertyVolume : UInt8 := 0x04
def propertyMute : UInt8 := 0x05
def propertyTreble : UInt8 := 0x06
def propertyBass : UInt8 := 0x07

def volumeSet (outputChannel : UInt16) (value : UInt32) : Request :=
  .setControlProperty outputChannel propertyVolume value

def muteSet (outputChannel : UInt16) (value : UInt32) : Request :=
  .setControlProperty outputChannel propertyMute value

def bassSet (outputChannel : UInt16) (value : UInt32) : Request :=
  .setControlProperty outputChannel propertyBass value

def trebleSet (outputChannel : UInt16) (value : UInt32) : Request :=
  .setControlProperty outputChannel propertyTreble value

def volumeGet (outputChannel : UInt16) : Request :=
  .getControlProperty outputChannel propertyVolume

def muteGet (outputChannel : UInt16) : Request := .getControlProperty outputChannel propertyMute

def bassGet (outputChannel : UInt16) : Request := .getControlProperty outputChannel propertyBass

def trebleGet (outputChannel : UInt16) : Request :=
  .getControlProperty outputChannel propertyTreble

def command : Request → UInt8
  | initializeCommunications => 0x22
  | ping => 0x23
  | setChannel .. => 0x10
  | getChannel .. => 0x11
  | setControlProperty .. => 0x19
  | getControlProperty .. => 0x1A

def size : Request → Nat
  | initializeCommunications => 1
  | ping => 1
  | setChannel .. => 7
  | getChannel .. => 3
  | setControlProperty .. => 8
  | getControlProperty .. => 4

def fields : Request → List UInt8
  | initializeCommunications => []
  | ping => []
  | setChannel outputChannel audioInputChannel videoInputChannel =>
    u16.encode (htons outputChannel) ++ u16.encode (htons audioInputChannel) ++
      u16.encode (htons videoInputChannel)
  | getChannel outputChannel => u16.encode (htons outputChannel)
  | setControlProperty outputChannel property value =>
    u16.encode (htons outputChannel) ++ [property] ++ u32.encode (htonl value)
  | getControlProperty outputChannel property => u16.encode (htons outputChannel) ++ [property]

def replySize : Request → Nat
  | initializeCommunications => 5
  | ping => 5
  | setChannel .. => 5
  | getChannel .. => 9
  | setControlProperty .. => 5
  | getControlProperty .. => 9

end Request

def initWrapper (length : UInt16) : List UInt8 := [0xAA, 0x55] ++ u16.encode (htons length)

structure Built where
  bytes : List UInt8
  computed : Bool

/-- What happens around a request: the uses of the CRC for it and for its reply, what
the variable of its CRC held before, and what the transfer leaves in the buffer for the
reply and in the stack behind. -/
structure Exchange where
  requestCrc : CrcUse
  replyCrc : CrcUse
  uninit : UInt16
  transferOk : Bool
  reply : Memory UInt8

variable (accelerator : List UInt8 → UInt32)

def Request.packed (r : Request) : List UInt8 :=
  initWrapper (UInt16.ofNat r.size) ++ r.command :: r.fields

def Request.source (r : Request) : List UInt8 := (r.packed.drop 4).take r.size

def cmdFrameShort (r : Request) (e : Exchange) : Built where
  bytes := r.packed ++
    u16.encode (htons ((crcCalculateFull accelerator e.requestCrc r.source).getD e.uninit))
  computed := e.requestCrc.computes

/-- The frames with parameters leave the CRC as it is when the driver does not open. -/
def cmdFrame (r : Request) (e : Exchange) : Built :=
  if e.requestCrc.opened then
    let (status, result) := calculateFull accelerator e.requestCrc r.source
    ⟨r.packed ++ u16.encode (htons (lowHalf result)), status⟩
  else ⟨r.packed ++ u16.encode e.uninit, false⟩

/-- The frame sent, whatever the builder returned. -/
def build (r : Request) (e : Exchange) : Built :=
  match r with
  | .initializeCommunications => cmdFrameShort accelerator r e
  | .ping => cmdFrameShort accelerator r e
  | r => cmdFrame accelerator r e

def createMsgFrameWithCRC (u : CrcUse) (pCmdData : List UInt8) : Int × List UInt8 :=
  let packed := initWrapper (UInt16.ofNat pCmdData.length) ++ pCmdData
  if u.opened then
    match calculateFull accelerator u pCmdData with
    | (true, result) =>
      (6 + pCmdData.length, packed ++ [((result >>> 8) &&& 0xFF).toUInt8, (result &&& 0xFF).toUInt8])
    | (false, _) => (-2, packed)
  else (-1, packed)

-- ---------------------------------------------------------------------------
-- Replies
-- ---------------------------------------------------------------------------

def replyLength (m : Memory UInt8) : UInt16 := ntohs (u16.load m 2)

def Request.replyCrc (r : Request) (m : Memory UInt8) : UInt16 := ntohs (u16.load m (4 + r.replySize))

/-- The length and the CRC are changed over where they stand. -/
def Request.hostOrder (r : Request) (m : Memory UInt8) : Memory UInt8 :=
  u16.store (u16.store m 2 (replyLength m)) (4 + r.replySize) (r.replyCrc m)

/-- What is published of a reply, if anything ever is. -/
def Request.charData (r : Request) (m : Memory UInt8) : Option (List UInt8) :=
  match r with
  | initializeCommunications => none
  | ping => none
  | setChannel .. => some (m.read 5 4)
  | getChannel outputChannel => some (m.read 5 4 ++ [outputChannel.toUInt8] ++
      u16.encode (ntohs (u16.load m 9)) ++ u16.encode (ntohs (u16.load m 11)))
  | setControlProperty .. => some (m.read 5 4)
  | getControlProperty .. => some (m.read 5 4 ++ u32.encode (ntohl (u32.load m 9)))

def publish (r : Request) (e : Exchange) : Option (List UInt8) :=
  if e.transferOk then
    let m := r.hostOrder e.reply
    match crcCalculateFull accelerator e.replyCrc (m.read 4 (replyLength e.reply).toNat) with
    | some ui16Result => if ui16Result = r.replyCrc e.reply then r.charData m else none
    | none => none
  else none

/-- The request of a characteristic of the Steve commands, from the data of its message. -/
def requestOf (paramID : Nat) (data : Memory UInt8) : Option Request :=
  let outputChannel := (data 0).toUInt16
  let value := u32.load data 1
  match paramID with
  | 1 => some (.setChannel outputChannel (u16.load data 1) (u16.load data 3))
  | 2 => some (.getChannel outputChannel)
  | 3 => some (.volumeSet outputChannel value)
  | 4 => some (.volumeGet outputChannel)
  | 5 => some (.muteSet outputChannel value)
  | 6 => some (.muteGet outputChannel)
  | 7 => some (.bassSet outputChannel value)
  | 8 => some (.bassGet outputChannel)
  | 9 => some (.trebleSet outputChannel value)
  | 10 => some (.trebleGet outputChannel)
  | _ => none

def steveCommandsServiceValueChangeHandler (paramID : Nat) (data : Memory UInt8) (e : Exchange) :
    Option (Built × Option (List UInt8)) :=
  (requestOf paramID data).map fun r => (build accelerator r e, publish accelerator r e)

-- ---------------------------------------------------------------------------
-- What a frame says
-- ---------------------------------------------------------------------------

def be16 : Codec UInt16 := u16.reversed
def be32 : Codec UInt32 := u32.reversed

/-- The body of a frame with its preamble, its length and its CRC right. -/
def decodeFrame : List UInt8 → Option (List UInt8)
  | preamble1 :: preamble2 :: high :: low :: rest =>
    let length := (be16.decode [high, low]).toNat
    let body := rest.take length
    if preamble1 = 0xAA ∧ preamble2 = 0x55 ∧ rest.length = length + 2 ∧
        be16.decode (rest.drop length) = crc16Ccitt body then
      some body
    else none
  | _ => none

def channels : Codec (UInt16 × UInt16 × UInt16) := be16.prod (be16.prod be16)
def property : Codec (UInt16 × UInt8) := be16.prod u8
def propertyValue : Codec (UInt16 × UInt8 × UInt32) := be16.prod (u8.prod be32)

def exactly {α : Type} (c : Codec α) (fields : List UInt8) (request : α → Request) :
    Option Request :=
  if fields.length = c.size then some (request (c.decode fields)) else none

def decodeBody : List UInt8 → Option Request
  | [] => none
  | command :: fields =>
    if command = 0x22 then if fields = [] then some .initializeCommunications else none
    else if command = 0x23 then if fields = [] then some .ping else none
    else if command = 0x10 then exactly channels fields fun x => .setChannel x.1 x.2.1 x.2.2
    else if command = 0x11 then exactly be16 fields .getChannel
    else if command = 0x19 then
      exactly propertyValue fields fun x => .setControlProperty x.1 x.2.1 x.2.2
    else if command = 0x1A then exactly property fields fun x => .getControlProperty x.1 x.2
    else none

def decodeRequest (bytes : List UInt8) : Option Request := (decodeFrame bytes).bind decodeBody

def ValidReply (r : Request) (m : Memory UInt8) : Prop :=
  be16.decode (m.read (4 + r.replySize) 2) = crc16Ccitt (m.read 4 r.replySize)

/-- The frame sent has a CRC that was computed and says the request, and what is
published comes from a reply with a valid CRC. -/
structure Sound (r : Request) (e : Exchange) : Prop where
  computed : (build accelerator r e).computed
  request : decodeRequest (build accelerator r e).bytes = some r
  reply : (publish accelerator r e).isSome → ValidReply r e.reply

def MessageSound (u : CrcUse) (pCmdData : List UInt8) : Prop :=
  0 < (createMsgFrameWithCRC accelerator u pCmdData).1 →
    decodeFrame (createMsgFrameWithCRC accelerator u pCmdData).2 = some pCmdData

/-- The reply does not have the length of its kind, and what stands where the CRC of
its kind is happens to be the CRC of as many bytes as it claims, but not of its body. -/
structure Misread (r : Request) (m : Memory UInt8) : Prop where
  length : (replyLength m).toNat ≠ r.replySize
  claimed : crc16Ccitt ((r.hostOrder m).read 4 (replyLength m).toNat) = r.replyCrc m
  invalid : ¬ ValidReply r m

variable {accelerator} {r : Request} {e : Exchange} {u : CrcUse} {body fields bs : List UInt8}
  {crc : UInt16} {m : Memory UInt8}

-- ---------------------------------------------------------------------------
-- Frames
-- ---------------------------------------------------------------------------

theorem encode_htons (v : UInt16) : u16.encode (htons v) = be16.encode v := u16_onto.encode_swap v

theorem encode_htonl (v : UInt32) : u32.encode (htonl v) = be32.encode v := u32_onto.encode_swap v

theorem decodeFrame_eq (hbody : body.length < 65536) :
    decodeFrame (initWrapper (UInt16.ofNat body.length) ++ body ++ be16.encode crc) =
      if crc = crc16Ccitt body then some body else none := by
  obtain ⟨high, low, hlength⟩ : ∃ high low,
      be16.encode (UInt16.ofNat body.length) = [high, low] :=
    List.length_eq_two.mp (be16.encode_length _)
  have hdecode : (be16.decode [high, low]).toNat = body.length := by
    rw [← hlength, be16.decode_encode, UInt16.toNat_ofNat_of_lt' hbody]
  have hcrc : (be16.encode crc).length = 2 := be16.encode_length crc
  have hframe : initWrapper (UInt16.ofNat body.length) ++ body ++ be16.encode crc =
      0xAA :: 0x55 :: high :: low :: (body ++ be16.encode crc) := by
    rw [initWrapper, encode_htons, hlength]
    rfl
  rw [hframe, decodeFrame, hdecode, List.take_left, List.drop_left, be16.decode_encode,
    List.length_append, hcrc]
  simp

theorem exactly_encode {α : Type} {c : Codec α} {a : α} {f : α → Request}
    (h : fields = c.encode a) : exactly c fields f = some (f a) := by
  rw [exactly, h, c.encode_length, if_pos rfl, c.decode_encode]

theorem decodeBody_request (r : Request) : decodeBody (r.command :: r.fields) = some r := by
  cases r with
  | initializeCommunications => rfl
  | ping => rfl
  | setChannel o a v =>
    rw [decodeBody, Request.command, if_neg (by decide), if_neg (by decide), if_pos rfl]
    refine exactly_encode (a := (o, a, v)) ?_
    rw [Request.fields, encode_htons, encode_htons, encode_htons, List.append_assoc]
    rfl
  | getChannel o => exact exactly_encode (c := be16) (encode_htons o)
  | setControlProperty o p v =>
    rw [decodeBody, Request.command, if_neg (by decide), if_neg (by decide), if_neg (by decide),
      if_neg (by decide), if_pos rfl]
    refine exactly_encode (a := (o, p, v)) ?_
    rw [Request.fields, encode_htons, encode_htonl, List.append_assoc]
    rfl
  | getControlProperty o p =>
    rw [decodeBody, Request.command, if_neg (by decide), if_neg (by decide), if_neg (by decide),
      if_neg (by decide), if_neg (by decide), if_pos rfl]
    refine exactly_encode (a := (o, p)) ?_
    rw [Request.fields, encode_htons]
    rfl

theorem length_fields (r : Request) : (r.command :: r.fields).length = r.size := by
  cases r <;> simp [Request.fields, Request.size, u16, u32]

theorem source_eq (r : Request) : r.source = r.command :: r.fields := by
  have hwrapper : (initWrapper (UInt16.ofNat r.size)).length = 4 := by
    rw [initWrapper, List.length_append, u16.encode_length]
    rfl
  rw [Request.source, Request.packed, List.drop_left' hwrapper, List.take_of_length_le]
  exact (length_fields r).le

theorem crcCalculateFull_eq (u : CrcUse) (source : List UInt8) :
    crcCalculateFull accelerator u source =
      if u.computes then some (lowHalf (accelerator source)) else none := by
  rw [crcCalculateFull, calculateFull, CrcUse.computes]
  cases u.opened <;> cases u.locked <;> rfl

theorem cmdFrameShort_of_computes (h : e.requestCrc.computes) : cmdFrameShort accelerator r e =
    ⟨r.packed ++ u16.encode (htons (lowHalf (accelerator r.source))), true⟩ := by
  rw [cmdFrameShort, crcCalculateFull_eq, if_pos h, h]
  rfl

theorem cmdFrame_of_computes (h : e.requestCrc.computes) : cmdFrame accelerator r e =
    ⟨r.packed ++ u16.encode (htons (lowHalf (accelerator r.source))), true⟩ := by
  obtain ⟨hopened, hlocked⟩ := Bool.and_eq_true_iff.mp h
  rw [cmdFrame, if_pos hopened, calculateFull, if_pos hlocked]

theorem cmdFrame_computed : (cmdFrame accelerator r e).computed = e.requestCrc.computes := by
  rw [cmdFrame, calculateFull, CrcUse.computes]
  cases e.requestCrc.opened <;> cases e.requestCrc.locked <;> rfl

theorem build_computed : (build accelerator r e).computed = e.requestCrc.computes := by
  cases r with
  | initializeCommunications => rfl
  | ping => rfl
  | _ => exact cmdFrame_computed

theorem build_of_computes (hcalc : ∀ bs, lowHalf (accelerator bs) = crc16Ccitt bs)
    (h : e.requestCrc.computes) : decodeRequest (build accelerator r e).bytes = some r := by
  have hbytes : (build accelerator r e).bytes =
      initWrapper (UInt16.ofNat (r.command :: r.fields).length) ++ (r.command :: r.fields) ++
        be16.encode (crc16Ccitt (r.command :: r.fields)) := by
    rw [length_fields, ← source_eq, ← hcalc, ← encode_htons, source_eq, ← Request.packed, ← source_eq]
    cases r with
    | initializeCommunications => rw [build, cmdFrameShort_of_computes h]
    | ping => rw [build, cmdFrameShort_of_computes h]
    | setChannel => rw [build, cmdFrame_of_computes h] <;> nofun
    | getChannel => rw [build, cmdFrame_of_computes h] <;> nofun
    | setControlProperty => rw [build, cmdFrame_of_computes h] <;> nofun
    | getControlProperty => rw [build, cmdFrame_of_computes h] <;> nofun
  have hsmall : (r.command :: r.fields).length < 65536 := by
    have hsize : r.size ≤ 8 := by cases r <;> simp [Request.size]
    rw [length_fields]
    omega
  rw [decodeRequest, hbytes, decodeFrame_eq hsmall, if_pos rfl]
  exact decodeBody_request r

theorem replyCrc_eq (r : Request) (m : Memory UInt8) :
    r.replyCrc m = be16.decode (m.read (4 + r.replySize) 2) :=
  u16_onto.swap_decode (Memory.read_length ..)

theorem hostOrder_body : (r.hostOrder m).read 4 r.replySize = m.read 4 r.replySize := by
  rw [Request.hostOrder, store, store, Memory.read_write_of_disjoint (.inl le_rfl),
    Memory.read_write_of_disjoint]
  exact .inr (by rw [u16.encode_length]; exact le_rfl)

theorem charData_isSome : (r.charData m).isSome ↔ r ≠ .initializeCommunications ∧ r ≠ .ping := by
  cases r <;> simp [Request.charData]

theorem publish_isSome (hcalc : ∀ bs, lowHalf (accelerator bs) = crc16Ccitt bs) :
    (publish accelerator r e).isSome ↔ e.transferOk ∧ e.replyCrc.computes ∧
      crc16Ccitt ((r.hostOrder e.reply).read 4 (replyLength e.reply).toNat) = r.replyCrc e.reply ∧
      r ≠ .initializeCommunications ∧ r ≠ .ping := by
  simp only [publish, crcCalculateFull_eq]
  by_cases hok : e.transferOk
  · by_cases hcomputes : e.replyCrc.computes
    · rw [if_pos hok, if_pos hcomputes]
      dsimp only
      rw [hcalc, and_iff_right hok, and_iff_right hcomputes]
      split
      case isTrue heq => rw [charData_isSome, and_iff_right heq]
      case isFalse hne => exact iff_of_false (by simp) fun h => hne h.1
    · rw [if_pos hok, if_neg hcomputes]
      exact iff_of_false (by simp) fun h => hcomputes h.2.1
  · rw [if_neg hok]
    exact iff_of_false (by simp) fun h => hok h.1

theorem reply_valid_iff (hcalc : ∀ bs, lowHalf (accelerator bs) = crc16Ccitt bs) :
    ((publish accelerator r e).isSome → ValidReply r e.reply) ↔
      ¬ (e.transferOk ∧ e.replyCrc.computes ∧ r ≠ .initializeCommunications ∧ r ≠ .ping ∧
        Misread r e.reply) := by
  rw [publish_isSome hcalc]
  constructor
  · rintro h ⟨hok, hcomputes, hinit, hping, hmisread⟩
    exact hmisread.invalid (h ⟨hok, hcomputes, hmisread.claimed, hinit, hping⟩)
  · rintro h ⟨hok, hcomputes, hclaimed, hinit, hping⟩
    by_contra hinvalid
    refine h ⟨hok, hcomputes, hinit, hping, fun hlength => hinvalid ?_, hclaimed, hinvalid⟩
    rw [ValidReply, ← replyCrc_eq, ← hclaimed, hlength, hostOrder_body]

-- ---------------------------------------------------------------------------
-- Every request
-- ---------------------------------------------------------------------------

theorem sound_iff (hcalc : ∀ bs, lowHalf (accelerator bs) = crc16Ccitt bs) :
    Sound accelerator r e ↔ e.requestCrc.computes ∧
      ¬ (e.transferOk ∧ e.replyCrc.computes ∧ r ≠ .initializeCommunications ∧ r ≠ .ping ∧
        Misread r e.reply) := by
  rw [← reply_valid_iff hcalc]
  constructor
  · intro h
    exact ⟨build_computed ▸ h.computed, h.reply⟩
  · rintro ⟨hcomputes, hreply⟩
    exact ⟨build_computed ▸ hcomputes, build_of_computes hcalc hcomputes, hreply⟩

theorem requestOf_isSome {paramID : Nat} {data : Memory UInt8} :
    (requestOf paramID data).isSome ↔ 1 ≤ paramID ∧ paramID ≤ 10 := by
  unfold requestOf
  split
  case h_11 => exact iff_of_false (by simp) (by grind)
  all_goals exact iff_of_true rfl (by decide)

theorem requestOf_asks {paramID : Nat} {data : Memory UInt8} (h : requestOf paramID data = some r) :
    r ≠ .initializeCommunications ∧ r ≠ .ping := by
  unfold requestOf at h
  split at h
  case h_11 => cases h
  all_goals
    obtain rfl := Option.some.inj h
    exact ⟨nofun, nofun⟩

/-- For a characteristic the handler sends a frame that says what the message asks for, and
publishes valid replies only, exactly when the CRC of the frame is computed and the reply is not
misread. -/
theorem handler_sound_iff (hcalc : ∀ bs, lowHalf (accelerator bs) = crc16Ccitt bs) {paramID : Nat}
    {data : Memory UInt8} (hr : requestOf paramID data = some r) :
    (∃ built published,
        steveCommandsServiceValueChangeHandler accelerator paramID data e = some (built, published) ∧
        built.computed ∧ decodeRequest built.bytes = some r ∧
        (published.isSome → ValidReply r e.reply)) ↔
      e.requestCrc.computes ∧ ¬ (e.transferOk ∧ e.replyCrc.computes ∧ Misread r e.reply) := by
  obtain ⟨hinit, hping⟩ := requestOf_asks hr
  have hhandler : steveCommandsServiceValueChangeHandler accelerator paramID data e =
      some (build accelerator r e, publish accelerator r e) := by
    rw [steveCommandsServiceValueChangeHandler, hr, Option.map_some]
  have hsound := sound_iff (e := e) (r := r) hcalc
  rw [and_iff_right hinit, and_iff_right hping] at hsound
  rw [← hsound, hhandler]
  constructor
  · rintro ⟨built, published, heq, hcomputed, hrequest, hreply⟩
    obtain ⟨rfl, rfl⟩ := Prod.mk.inj (Option.some.inj heq)
    exact ⟨hcomputed, hrequest, hreply⟩
  · exact fun h => ⟨_, _, rfl, h.computed, h.request, h.reply⟩

theorem toNat_lowHalf (result : UInt32) : (lowHalf result).toNat = result.toNat % 65536 := by
  rw [lowHalf, UInt32.toNat_toUInt16, UInt32.toNat_and]
  change (result.toNat &&& (2 ^ 16 - 1)) % 2 ^ 16 = _
  rw [Nat.and_two_pow_sub_one_eq_mod, Nat.mod_mod]

theorem lowHalf_toUInt32 (crc : UInt16) : lowHalf crc.toUInt32 = crc := by
  rw [← UInt16.toNat_inj, toNat_lowHalf, UInt16.toNat_toUInt32]
  exact Nat.mod_eq_of_lt crc.toNat_lt

theorem toNat_lowByte (result : UInt32) : (result &&& 0xFF).toUInt8.toNat = result.toNat % 256 := by
  rw [UInt32.toNat_toUInt8, UInt32.toNat_and]
  change (result.toNat &&& (2 ^ 8 - 1)) % 2 ^ 8 = _
  rw [Nat.and_two_pow_sub_one_eq_mod, Nat.mod_mod]

theorem encode_lowHalf (result : UInt32) :
    be16.encode (lowHalf result) =
      [((result >>> 8) &&& 0xFF).toUInt8, (result &&& 0xFF).toUInt8] := by
  have hbytes : be16.encode (lowHalf result) =
      [UInt8.ofNat ((lowHalf result).toNat / 256), UInt8.ofNat (lowHalf result).toNat] := rfl
  have hhigh : (result >>> 8).toNat = result.toNat / 256 := by
    rw [UInt32.toNat_shiftRight, Nat.shiftRight_eq_div_pow]
    rfl
  rw [hbytes, List.cons.injEq, List.cons.injEq, ← UInt8.toNat_inj, ← UInt8.toNat_inj,
    toNat_lowByte, toNat_lowByte, hhigh, UInt8.toNat_ofNat', UInt8.toNat_ofNat', toNat_lowHalf]
  exact ⟨by omega, by omega, rfl⟩

theorem createMsgFrameWithCRC_of_computes (h : u.computes) :
    createMsgFrameWithCRC accelerator u body = ((6 + body.length : Int),
      initWrapper (UInt16.ofNat body.length) ++ body ++
        be16.encode (lowHalf (accelerator body))) := by
  obtain ⟨hopened, hlocked⟩ := Bool.and_eq_true_iff.mp h
  rw [createMsgFrameWithCRC, if_pos hopened, calculateFull, if_pos hlocked, encode_lowHalf]

theorem createMsgFrameWithCRC_fails (h : ¬ u.computes) :
    (createMsgFrameWithCRC accelerator u body).1 < 0 := by
  rw [CrcUse.computes, Bool.and_eq_true, not_and_or] at h
  simp only [createMsgFrameWithCRC]
  split
  case isTrue hopened =>
    rw [calculateFull, if_neg (h.resolve_left (not_not_intro hopened))]
    exact Int.negSucc_lt_zero 1
  case isFalse => exact Int.negSucc_lt_zero 0

theorem decodeFrame_length (h : decodeFrame bs = some body) : body.length < 65536 := by
  rw [decodeFrame.eq_def] at h
  split at h
  case h_1 preamble1 preamble2 high low rest =>
    dsimp only at h
    split at h
    case isTrue =>
      obtain rfl := Option.some.inj h
      have hlt := (be16.decode [high, low]).toNat_lt
      exact (List.length_take_le _ _).trans_lt hlt
    case isFalse => cases h
  case h_2 => cases h

theorem messageSound_iff (hcalc : ∀ bs, lowHalf (accelerator bs) = crc16Ccitt bs) :
    MessageSound accelerator u body ↔ (u.computes → body.length < 65536) := by
  by_cases hcomputes : u.computes
  · rw [MessageSound, createMsgFrameWithCRC_of_computes hcomputes]
    constructor
    · exact fun h _ => decodeFrame_length (h (by dsimp only; omega))
    · intro h _
      rw [hcalc, decodeFrame_eq (h hcomputes), if_pos rfl]
  · refine iff_of_true (fun h => ?_) fun h => absurd h hcomputes
    exact absurd h (not_lt.mpr (createMsgFrameWithCRC_fails hcomputes).le)

/-- Requests say what was asked and only valid replies are published, exactly when the
CRC of the request is computed and the reply is not misread; a message is right
exactly when its length has 16 bits or its CRC is not computed. -/
theorem requests_sound_iff (accelerator : List UInt8 → UInt32)
    (hcalc : ∀ bs, lowHalf (accelerator bs) = crc16Ccitt bs) :
    (∀ (r : Request) (e : Exchange), Sound accelerator r e ↔ e.requestCrc.computes ∧
      ¬ (e.transferOk ∧ e.replyCrc.computes ∧ r ≠ .initializeCommunications ∧ r ≠ .ping ∧
        Misread r e.reply)) ∧
    ∀ (u : CrcUse) (pCmdData : List UInt8),
      MessageSound accelerator u pCmdData ↔ (u.computes → pCmdData.length < 65536) :=
  ⟨fun _ _ => sound_iff hcalc, fun _ _ => messageSound_iff hcalc⟩

/-- An accelerator that computes the CRC in the low half of its register. -/
theorem requests_sound_ccitt :
    (∀ (r : Request) (e : Exchange), Sound (fun bs => (crc16Ccitt bs).toUInt32) r e ↔
      e.requestCrc.computes ∧
        ¬ (e.transferOk ∧ e.replyCrc.computes ∧ r ≠ .initializeCommunications ∧ r ≠ .ping ∧
          Misread r e.reply)) ∧
    ∀ (u : CrcUse) (pCmdData : List UInt8),
      MessageSound (fun bs => (crc16Ccitt bs).toUInt32) u pCmdData ↔
        (u.computes → pCmdData.length < 65536) :=
  requests_sound_iff _ fun _ => lowHalf_toUInt32 _

/-- The driver is open already, and the frame goes out with what stood in its place. -/
theorem unset_crc_transmitted :
    ¬ ∀ (accelerator : List UInt8 → UInt32), (∀ bs, lowHalf (accelerator bs) = crc16Ccitt bs) →
      ∀ (r : Request) (e : Exchange), Sound accelerator r e := by
  intro h
  have hsound := h (fun bs => (crc16Ccitt bs).toUInt32) (fun _ => lowHalf_toUInt32 _)
    (.getChannel 1) ⟨⟨false, true⟩, ⟨true, true⟩, 0, false, fun _ => 0⟩
  exact absurd hsound.computed (by decide)

end SystemMaster.Avds.Requests
