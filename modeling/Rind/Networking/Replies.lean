import Rind.Data.Tagged
import Rind.Networking.Runtime
import Rind.Prog.Loops
import Rind.Transport.Ring

/-!
# DHCP replies

A reply is a datagram from the network.  Behind a header of fixed size it has options, which are
read by position.  Whatever the datagram is, the reading ends, stays inside of it, and finds what
is in the options if these are read one after the other.
-/

namespace Rind.Networking

open Prog Tagged

/-! ## Options -/

def dhcpMagicCookie : List UInt8 := [99, 130, 83, 99]

def optSubnetMask : UInt8 := 1

def optRouter : UInt8 := 3

def optDns : UInt8 := 6

def optLeaseTime : UInt8 := 51

def optMsgType : UInt8 := 53

def optServerId : UInt8 := 54

def optEnd : UInt8 := 255

structure DhcpResponse where
  msgType : UInt8
  yourIp : Ipv4Addr
  serverId : Option Ipv4Addr
  subnetMask : Option Ipv4Addr
  router : Option Ipv4Addr
  dnsServers : List Ipv4Addr
  leaseTime : Option UInt32
  deriving DecidableEq, Repr

attribute [ext] DhcpResponse

/-- `u32::from_be_bytes` -/
def fromBeBytes (a b c d : UInt8) : UInt32 :=
  UInt32.ofNat (((a.toNat * 256 + b.toNat) * 256 + c.toNat) * 256 + d.toNat)

/-- An index, which must be one of the bytes. -/
def at_ (data : List UInt8) (index : Nat) : Except Fault UInt8 := byteAt .outOfBounds data index

def addrAt (data : List UInt8) (index : Nat) : Except Fault Ipv4Addr := do
  let a ← at_ data index
  let b ← at_ data (index + 1)
  let c ← at_ data (index + 2)
  let d ← at_ data (index + 3)
  pure ⟨a, b, c, d⟩

def u32At (data : List UInt8) (index : Nat) : Except Fault UInt32 := do
  let a ← at_ data index
  let b ← at_ data (index + 1)
  let c ← at_ data (index + 2)
  let d ← at_ data (index + 3)
  pure (fromBeBytes a b c d)

/-! ## Reading by position -/

/-- The position of the next option, that of the next resolver in it, and what has been read. -/
structure DhcpReading where
  i : Nat
  j : Nat
  response : DhcpResponse

/-- Change what has been read, by something that may not be there. -/
def note {α : Type} (value : Except Fault α) (change : α → DhcpResponse → DhcpResponse) :
    Prog DhcpReading Fault Unit := do
  let value ← ofExcept value
  Prog.change fun reading => { reading with response := change value reading.response }

def dnsRound (val : List UInt8) (len : Nat) : Prog DhcpReading Fault Bool := do
  let j ← read DhcpReading.j
  if j + 3 < len then
    note (addrAt val j) fun addr response =>
      { response with dnsServers := response.dnsServers ++ [addr] }
    change fun reading => { reading with j := j + 4 }
    pure true
  else pure false

def readOption (rounds : Nat) (opt : UInt8) (len : Nat) (val : List UInt8) :
    Prog DhcpReading Fault Unit :=
  if opt = optMsgType ∧ 1 ≤ len then
    note (at_ val 0) fun msgType response => { response with msgType }
  else if opt = optSubnetMask ∧ 4 ≤ len then
    note (addrAt val 0) fun addr response => { response with subnetMask := some addr }
  else if opt = optRouter ∧ 4 ≤ len then
    note (addrAt val 0) fun addr response => { response with router := some addr }
  else if opt = optDns then do
    change fun reading => { reading with j := 0 }
    loop (dnsRound val len) rounds
  else if opt = optLeaseTime ∧ 4 ≤ len then
    note (u32At val 0) fun time response => { response with leaseTime := some time }
  else if opt = optServerId ∧ 4 ≤ len then
    note (addrAt val 0) fun addr response => { response with serverId := some addr }
  else pure ()

def optionRound (rounds : Nat) (data : List UInt8) : Prog DhcpReading Fault Bool := do
  let i ← read DhcpReading.i
  if data.length ≤ i then pure false else do
  let opt ← ofExcept (at_ data i)
  if opt = optEnd then pure false else do
  if opt = 0 then
    change fun reading => { reading with i := i + 1 }
    pure true
  else if data.length ≤ i + 1 then pure false
  else do
    let len ← ofExcept (at_ data (i + 1))
    let valStart := i + 2
    let valEnd := valStart + len.toNat
    if data.length < valEnd then pure false else do
    let val ← ofExcept (slice .outOfBounds data valStart valEnd)
    readOption rounds opt len.toNat val
    change fun reading => { reading with i := valEnd }
    pure true

/-- The header of a reply: the error that it is refused with, or the address that it offers. -/
def readHeader (data : List UInt8) (expectedXid : UInt32) :
    Except Fault (Except CoreError Ipv4Addr) := do
  if data.length < 240 then return .error (.custom "DHCP: response too short")
  let op ← at_ data 0
  if op ≠ 2 then return .error (.custom "DHCP: not a BOOTREPLY")
  let xid ← u32At data 4
  if xid ≠ expectedXid then return .error (.custom "DHCP: XID mismatch")
  let yourIp ← addrAt data 16
  let cookie ← slice .outOfBounds data 236 240
  if cookie ≠ dhcpMagicCookie then return .error (.custom "DHCP: bad magic cookie")
  return .ok yourIp

/-- `parse_dhcp_response`, whose loops are run for at most some rounds. -/
def parseDhcpResponse (rounds : Nat) (data : List UInt8) (expectedXid : UInt32) :
    Option (Except Fault (Except CoreError DhcpResponse)) :=
  match readHeader data expectedXid with
  | .error fault => some (.error fault)
  | .ok (.error err) => some (.ok (.error err))
  | .ok (.ok yourIp) =>
      let start : DhcpReading := ⟨240, 0, ⟨0, yourIp, none, none, none, [], none⟩⟩
      (loop (optionRound rounds data) rounds start).map fun done =>
        done.1.map fun _ => .ok done.2.response

/-! ## Reading one after the other -/

/-- The address that some bytes begin with. -/
def firstAddr : List UInt8 → Option Ipv4Addr
  | a :: b :: c :: d :: _ => some ⟨a, b, c, d⟩
  | _ => none

/-- The number of 32 bits that some bytes begin with. -/
def firstU32 : List UInt8 → Option UInt32
  | a :: b :: c :: d :: _ => some (fromBeBytes a b c d)
  | _ => none

/-- The addresses that some bytes are, without what is left at their end. -/
def wholeAddrs : List UInt8 → List Ipv4Addr
  | a :: b :: c :: d :: rest => ⟨a, b, c, d⟩ :: wholeAddrs rest
  | _ => []

/-- The options of a reply. -/
def dhcpOptions (data : List UInt8) : List (UInt8 × List UInt8) :=
  Tagged.records optEnd 0 (data.drop 240)

/-- The fields of a reply: of each option the last one that is long enough, and all resolvers. -/
def referenceResponse (data : List UInt8) : DhcpResponse where
  msgType := ((lastSized optMsgType 1 (dhcpOptions data)).bind List.head?).getD 0
  yourIp := (firstAddr (data.drop 16)).getD ⟨0, 0, 0, 0⟩
  serverId := (lastSized optServerId 4 (dhcpOptions data)).bind firstAddr
  subnetMask := (lastSized optSubnetMask 4 (dhcpOptions data)).bind firstAddr
  router := (lastSized optRouter 4 (dhcpOptions data)).bind firstAddr
  dnsServers := (allOf optDns (dhcpOptions data)).flatMap wholeAddrs
  leaseTime := (lastSized optLeaseTime 4 (dhcpOptions data)).bind firstU32

/-! ## What is read at a position -/

section Positions

variable {data : List UInt8} {index : Nat}

/-- Four bytes at a position are what the rest begins with. -/
theorem four_at (fits : index + 4 ≤ data.length) : ∃ a b c d rest,
    data.drop index = a :: b :: c :: d :: rest ∧ at_ data index = .ok a ∧
      at_ data (index + 1) = .ok b ∧ at_ data (index + 2) = .ok c ∧
      at_ data (index + 3) = .ok d := by
  have one (position : Nat) (inside : position < data.length) :
      data.drop position = data[position] :: data.drop (position + 1) :=
    List.drop_eq_getElem_cons inside
  have first := one index (by omega)
  have second := one (index + 1) (by omega)
  have third := one (index + 2) (by omega)
  have fourth := one (index + 3) (by omega)
  exact ⟨_, _, _, _, _, by rw [first, second, third, fourth], byteAt_of_drop _ first,
    byteAt_of_drop _ second, byteAt_of_drop _ third, byteAt_of_drop _ fourth⟩

theorem addrAt_first (fits : index + 4 ≤ data.length) :
    ∃ addr, addrAt data index = .ok addr ∧ firstAddr (data.drop index) = some addr := by
  obtain ⟨a, b, c, d, rest, shape, first, second, third, fourth⟩ := four_at fits
  refine ⟨⟨a, b, c, d⟩, ?_, by rw [shape, firstAddr]⟩
  rw [addrAt, first, second, third, fourth]
  rfl

theorem u32At_first (fits : index + 4 ≤ data.length) :
    ∃ num, u32At data index = .ok num ∧ firstU32 (data.drop index) = some num := by
  obtain ⟨a, b, c, d, rest, shape, first, second, third, fourth⟩ := four_at fits
  refine ⟨fromBeBytes a b c d, ?_, by rw [shape, firstU32]⟩
  rw [u32At, first, second, third, fourth]
  rfl

end Positions

/-! ## One option -/

/-- What an option changes of what has been read. -/
def DhcpResponse.withOption (response : DhcpResponse) (option : UInt8 × List UInt8) :
    DhcpResponse :=
  if option.1 = optMsgType ∧ 1 ≤ option.2.length then
    { response with msgType := option.2.head?.getD 0 }
  else if option.1 = optSubnetMask ∧ 4 ≤ option.2.length then
    { response with subnetMask := firstAddr option.2 }
  else if option.1 = optRouter ∧ 4 ≤ option.2.length then
    { response with router := firstAddr option.2 }
  else if option.1 = optDns then
    { response with dnsServers := response.dnsServers ++ wholeAddrs option.2 }
  else if option.1 = optLeaseTime ∧ 4 ≤ option.2.length then
    { response with leaseTime := firstU32 option.2 }
  else if option.1 = optServerId ∧ 4 ≤ option.2.length then
    { response with serverId := firstAddr option.2 }
  else response

section Options

variable {data val : List UInt8} {rounds : Nat} {reading : DhcpReading}

theorem run_note {α : Type} {value : Except Fault α} {result : α}
    (there : value = .ok result) (change : α → DhcpResponse → DhcpResponse)
    (reading : DhcpReading) :
    note value change reading =
      some (.ok (), { reading with response := change result reading.response }) := by
  rw [note, there]
  rfl

/-- An address that an option begins with is noted. -/
theorem run_note_addr (fits : 4 ≤ val.length)
    (set : Option Ipv4Addr → DhcpResponse → DhcpResponse) :
    note (addrAt val 0) (fun addr => set (some addr)) reading =
      some (.ok (), { reading with response := set (firstAddr val) reading.response }) := by
  obtain ⟨addr, there, first⟩ := addrAt_first (show 0 + 4 ≤ val.length by omega)
  rw [List.drop_zero] at first
  rw [run_note there, first]

theorem run_note_u32 (fits : 4 ≤ val.length)
    (set : Option UInt32 → DhcpResponse → DhcpResponse) :
    note (u32At val 0) (fun num => set (some num)) reading =
      some (.ok (), { reading with response := set (firstU32 val) reading.response }) := by
  obtain ⟨num, there, first⟩ := u32At_first (show 0 + 4 ≤ val.length by omega)
  rw [List.drop_zero] at first
  rw [run_note there, first]

theorem wholeAddrs_short (short : val.length < 4) : wholeAddrs val = [] := by
  match val, short with
  | [], _ => rfl
  | [_], _ => rfl
  | [_, _], _ => rfl
  | [_, _, _], _ => rfl

/-- The resolvers of an option are read four bytes at a time. -/
theorem loop_dnsRound (reading : DhcpReading) (enough : val.length - reading.j < rounds) :
    ∃ j, loop (dnsRound val val.length) rounds reading = some (.ok (), { reading with
      j := j
      response := { reading.response with
        dnsServers := reading.response.dnsServers ++ wholeAddrs (val.drop reading.j) } }) := by
  induction rounds generalizing reading with
  | zero => exact absurd enough (Nat.not_lt_zero _)
  | succ rounds ih =>
      rw [loop, run_bind, dnsRound, run_read_bind]
      by_cases more : reading.j + 3 < val.length
      · obtain ⟨a, b, c, d, rest, shape, first, second, third, fourth⟩ :=
          four_at (show reading.j + 4 ≤ val.length by omega)
        have there : addrAt val reading.j = .ok ⟨a, b, c, d⟩ := by
          rw [addrAt, first, second, third, fourth]
          rfl
        have behind : val.drop (reading.j + 4) = rest := by
          rw [← List.drop_drop, shape]
          rfl
        rw [if_pos more, run_bind_of_ok (run_note there _ reading)]
        obtain ⟨j, ran⟩ := ih { reading with
          j := reading.j + 4
          response := { reading.response with
            dnsServers := reading.response.dnsServers ++ [⟨a, b, c, d⟩] } } (by
              dsimp only
              omega)
        refine ⟨j, ran.trans ?_⟩
        dsimp only
        rw [behind, shape, wholeAddrs, List.append_assoc]
        rfl
      · have short : (val.drop reading.j).length < 4 := by
          rw [List.length_drop]
          omega
        rw [if_neg more, wholeAddrs_short short, List.append_nil]
        exact ⟨reading.j, rfl⟩

/-- Reading an option stays inside of it and changes the fields that it is about. -/
theorem run_readOption (opt : UInt8) (reading : DhcpReading) (enough : val.length < rounds) :
    ∃ j, readOption rounds opt val.length val reading = some (.ok (), { reading with
      j := j
      response := reading.response.withOption (opt, val) }) := by
  rw [readOption, DhcpResponse.withOption]
  split
  · next msgType =>
      obtain ⟨byte, rest, rfl⟩ := List.exists_cons_of_length_pos msgType.2
      exact ⟨reading.j, run_note (byteAt_of_drop _ List.drop_zero) _ reading⟩
  split
  · next subnetMask =>
      exact ⟨reading.j, run_note_addr subnetMask.2 fun value response =>
        { response with subnetMask := value }⟩
  split
  · next router =>
      exact ⟨reading.j, run_note_addr router.2 fun value response =>
        { response with router := value }⟩
  split
  · obtain ⟨j, ran⟩ := loop_dnsRound { reading with j := 0 } enough
    exact ⟨j, ran⟩
  split
  · next leaseTime =>
      exact ⟨reading.j, run_note_u32 leaseTime.2 fun value response =>
        { response with leaseTime := value }⟩
  split
  · next serverId =>
      exact ⟨reading.j, run_note_addr serverId.2 fun value response =>
        { response with serverId := value }⟩
  · exact ⟨reading.j, rfl⟩

/-! ## All options -/

/-- A round of the loop at the end of the datagram leaves it. -/
theorem optionRound_beyond (beyond : data.length ≤ reading.i) :
    optionRound rounds data reading = some (.ok false, reading) := by
  rw [optionRound, run_read_bind, if_pos beyond]
  rfl

theorem optionRound_inside {opt : UInt8} {rest : List UInt8}
    (shape : data.drop reading.i = opt :: rest) :
    optionRound rounds data reading =
      if opt = optEnd then some (.ok false, reading)
      else if opt = 0 then some (.ok true, { reading with i := reading.i + 1 })
      else
        match rest with
        | [] => some (.ok false, reading)
        | len :: values =>
            if values.length < len.toNat then some (.ok false, reading)
            else (do
              readOption rounds opt len.toNat (values.take len.toNat)
              change fun next => { next with i := reading.i + 2 + len.toNat }
              pure true : Prog DhcpReading Fault Bool) reading := by
  have inside := lt_of_drop shape
  have behind := drop_succ shape
  rw [optionRound, run_read_bind, if_neg (by omega), at_, byteAt_of_drop _ shape,
    run_ofExcept_ok_bind]
  by_cases last : opt = optEnd
  · rw [if_pos last, if_pos last]
    rfl
  by_cases pad : opt = 0
  · rw [if_neg last, if_neg last, if_pos pad, if_pos pad]
    rfl
  rw [if_neg last, if_neg last, if_neg pad, if_neg pad]
  have size := congrArg List.length behind
  rw [List.length_drop] at size
  cases rest with
  | nil =>
      rw [List.length_nil] at size
      rw [if_pos (by omega)]
      rfl
  | cons len values =>
      rw [List.length_cons] at size
      rw [if_neg (by omega), at_, byteAt_of_drop _ behind, run_ofExcept_ok_bind]
      dsimp only
      by_cases fits : values.length < len.toNat
      · rw [if_pos fits, if_pos (by omega)]
        rfl
      · have value := slice_of_drop Fault.outOfBounds (by omega) (drop_succ behind)
          (Nat.le_of_not_lt fits)
        rw [if_neg fits, if_neg (by omega), value, run_ofExcept_ok_bind]

/-- The options are read in their order, up to the end or the first one that does not fit. -/
theorem loop_optionRound {limit : Nat} (reading : DhcpReading)
    (enough : data.length - reading.i < limit)
    (inner : data.length < rounds) :
    ∃ i j, loop (optionRound rounds data) limit reading = some (.ok (), {
      i := i
      j := j
      response := (Tagged.records optEnd 0 (data.drop reading.i)).foldl DhcpResponse.withOption
        reading.response }) := by
  induction limit generalizing reading with
  | zero => exact absurd enough (Nat.not_lt_zero _)
  | succ limit ih =>
      rw [loop, run_bind]
      rcases shape : data.drop reading.i with _ | ⟨opt, rest⟩
      · rw [optionRound_beyond (List.drop_eq_nil_iff.mp shape), records_nil]
        exact ⟨_, _, rfl⟩
      have inside := lt_of_drop shape
      have behind := drop_succ shape
      rw [optionRound_inside shape]
      by_cases last : opt = optEnd
      · rw [if_pos last, last, records_last]
        exact ⟨_, _, rfl⟩
      rw [if_neg last]
      by_cases pad : opt = 0
      · subst pad
        rw [if_pos rfl, records_pad last, ← behind]
        exact ih { reading with i := reading.i + 1 } (by dsimp only; omega)
      rw [if_neg pad]
      cases rest with
      | nil =>
          rw [records_single]
          exact ⟨_, _, rfl⟩
      | cons len values =>
          dsimp only
          by_cases fits : values.length < len.toNat
          · rw [if_pos fits, records_short fits last pad]
            exact ⟨_, _, rfl⟩
          · have size : (values.take len.toNat).length = len.toNat := by
              rw [List.length_take]
              omega
            have within : (values.take len.toNat).length < rounds := by
              have bounds := congrArg List.length behind
              rw [List.length_drop, List.length_cons] at bounds
              omega
            obtain ⟨j, noted⟩ := run_readOption opt reading within
            rw [size] at noted
            have next : data.drop (reading.i + 2 + len.toNat) = values.drop len.toNat := by
              rw [← List.drop_drop, drop_succ behind]
            rw [if_neg fits, records_fits fits last pad, List.foldl_cons, run_bind_of_ok noted,
              ← next]
            exact ih ⟨reading.i + 2 + len.toNat, j, _⟩ (by dsimp only; omega)

end Options

/-! ## A reply -/

section Fields

variable (start : DhcpResponse) (found : List (UInt8 × List UInt8))

theorem msgType_foldl : (found.foldl DhcpResponse.withOption start).msgType =
    ((lastSized optMsgType 1 found).map fun value => value.head?.getD 0).getD start.msgType := by
  apply foldl_lastSized
  · intro response option same sized
    rw [DhcpResponse.withOption, if_pos ⟨same, sized⟩]
  · intro response option other
    rw [DhcpResponse.withOption, if_neg other]
    split_ifs
    all_goals rfl

theorem subnetMask_foldl : (found.foldl DhcpResponse.withOption start).subnetMask =
    ((lastSized optSubnetMask 4 found).map firstAddr).getD start.subnetMask := by
  apply foldl_lastSized
  · intro response option same sized
    simp [DhcpResponse.withOption, same, sized, optMsgType, optSubnetMask]
  · intro response option other
    rw [DhcpResponse.withOption, if_neg other]
    split_ifs
    all_goals rfl

theorem router_foldl : (found.foldl DhcpResponse.withOption start).router =
    ((lastSized optRouter 4 found).map firstAddr).getD start.router := by
  apply foldl_lastSized
  · intro response option same sized
    simp [DhcpResponse.withOption, same, sized, optMsgType, optSubnetMask, optRouter]
  · intro response option other
    rw [DhcpResponse.withOption, if_neg other]
    split_ifs
    all_goals rfl

theorem leaseTime_foldl : (found.foldl DhcpResponse.withOption start).leaseTime =
    ((lastSized optLeaseTime 4 found).map firstU32).getD start.leaseTime := by
  apply foldl_lastSized
  · intro response option same sized
    simp [DhcpResponse.withOption, same, sized, optMsgType, optSubnetMask, optRouter, optDns,
      optLeaseTime]
  · intro response option other
    rw [DhcpResponse.withOption, if_neg other]
    split_ifs
    all_goals rfl

theorem serverId_foldl : (found.foldl DhcpResponse.withOption start).serverId =
    ((lastSized optServerId 4 found).map firstAddr).getD start.serverId := by
  apply foldl_lastSized
  · intro response option same sized
    simp [DhcpResponse.withOption, same, sized, optMsgType, optSubnetMask, optRouter, optDns,
      optLeaseTime, optServerId]
  · intro response option other
    rw [DhcpResponse.withOption, if_neg other]
    split_ifs
    all_goals rfl

theorem dnsServers_foldl : (found.foldl DhcpResponse.withOption start).dnsServers =
    start.dnsServers ++ (allOf optDns found).flatMap wholeAddrs := by
  apply foldl_allOf
  · intro response option same
    simp [DhcpResponse.withOption, same, optMsgType, optSubnetMask, optRouter, optDns]
  · intro response option other
    rw [DhcpResponse.withOption, if_neg other]
    split_ifs
    all_goals rfl

theorem yourIp_foldl : (found.foldl DhcpResponse.withOption start).yourIp = start.yourIp := by
  induction found generalizing start with
  | nil => rfl
  | cons option rest ih =>
      rw [List.foldl_cons, ih, DhcpResponse.withOption]
      split_ifs
      all_goals rfl

end Fields

section Reply

variable (data : List UInt8)

/-- The fields that a loop over the options fills in. -/
theorem foldl_withOption (yourIp : Ipv4Addr) :
    (dhcpOptions data).foldl DhcpResponse.withOption ⟨0, yourIp, none, none, none, [], none⟩ =
      { referenceResponse data with yourIp := yourIp } := by
  ext1
  · rw [msgType_foldl, referenceResponse]
    cases lastSized optMsgType 1 (dhcpOptions data) <;> rfl
  · exact yourIp_foldl _ _
  · rw [serverId_foldl, referenceResponse]
    cases lastSized optServerId 4 (dhcpOptions data) <;> rfl
  · rw [subnetMask_foldl, referenceResponse]
    cases lastSized optSubnetMask 4 (dhcpOptions data) <;> rfl
  · rw [router_foldl, referenceResponse]
    cases lastSized optRouter 4 (dhcpOptions data) <;> rfl
  · exact dnsServers_foldl _ _
  · rw [leaseTime_foldl, referenceResponse]
    cases lastSized optLeaseTime 4 (dhcpOptions data) <;> rfl

/-- The header is read inside of the datagram, and gives the address that is there. -/
theorem readHeader_ok (expectedXid : UInt32) :
    ∃ result, readHeader data expectedXid = .ok result ∧
      ∀ yourIp, result = .ok yourIp → yourIp = (referenceResponse data).yourIp := by
  rw [readHeader]
  by_cases short : data.length < 240
  · rw [if_pos short]
    exact ⟨_, rfl, nofun⟩
  obtain ⟨op, _, _, _, _, _, there, -⟩ := four_at (show 0 + 4 ≤ data.length by omega)
  obtain ⟨xid, number, -⟩ := u32At_first (show 4 + 4 ≤ data.length by omega)
  obtain ⟨addr, address, first⟩ := addrAt_first (show 16 + 4 ≤ data.length by omega)
  have cookie : slice Fault.outOfBounds data 236 240 = .ok ((data.take 240).drop 236) :=
    if_pos ⟨by decide, by omega⟩
  rw [if_neg short, there, number, address, cookie]
  simp only [ok_bind]
  split
  · exact ⟨_, rfl, nofun⟩
  split
  · exact ⟨_, rfl, nofun⟩
  split
  · exact ⟨_, rfl, nofun⟩
  · refine ⟨_, rfl, fun yourIp same => ?_⟩
    cases same
    rw [referenceResponse, first, Option.getD_some]

/-- Whatever datagram is received, its reading ends, takes no byte beyond it, and what it
returns is what stands in its options. -/
theorem parseDhcpResponse_reads (expectedXid : UInt32) {rounds : Nat}
    (enough : data.length < rounds) :
    ∃ result, parseDhcpResponse rounds data expectedXid = some (.ok result) ∧
      ∀ response, result = .ok response → response = referenceResponse data := by
  obtain ⟨header, read, offered⟩ := readHeader_ok data expectedXid
  rw [parseDhcpResponse, read]
  cases header with
  | error err => exact ⟨_, rfl, nofun⟩
  | ok yourIp =>
      obtain ⟨i, j, ran⟩ := loop_optionRound ⟨240, 0, ⟨0, yourIp, none, none, none, [], none⟩⟩
        ((Nat.sub_le _ _).trans_lt enough) enough
      simp only [ran, Option.map_some]
      refine ⟨_, rfl, fun response same => ?_⟩
      cases same
      have filled := foldl_withOption data yourIp
      rw [dhcpOptions] at filled
      rw [filled, offered yourIp rfl]

end Reply

/-- A reply with two routers, of which one is too short, and with a resolver and a byte. -/
def sampleReply : List UInt8 :=
  [2, 0, 0, 0, 0xCA, 0xFE, 0xBA, 0xBE] ++ List.replicate 8 0 ++ [10, 0, 0, 50] ++
    List.replicate 216 0 ++ dhcpMagicCookie ++
    [53, 1, 5, 0, 3, 4, 10, 0, 0, 1, 3, 2, 10, 0, 6, 5, 8, 8, 8, 8, 9, 51, 9, 0]

theorem parseDhcpResponse_reads_sampleReply :
    ∃ result, parseDhcpResponse 300 sampleReply 0xCAFEBABE = some (.ok result) ∧
      ∀ response, result = .ok response → response = referenceResponse sampleReply :=
  parseDhcpResponse_reads sampleReply 0xCAFEBABE (by decide +kernel)

end Rind.Networking
