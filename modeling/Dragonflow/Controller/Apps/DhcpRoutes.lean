import Dragonflow.Controller.Apps.L3
import Dragonflow.Foundation.PrefixMask

/-! # The classless route option

The routes that `dragonflow/controller/apps/dhcp.py` gives to its clients, as the bytes of
one DHCP option. A record of the option is as long as the prefix of its route needs.
-/

namespace Dragonflow

/-- `IPNetwork.network`, without the host bits. -/
def IPNetwork.network : IPNetwork → IPAddress
  | .v4 address length =>
      .v4 (BitVec.ofNat 32 (address.toNat &&& prefixMask 32 (32 - length.val)))
  | .v6 address length =>
      .v6 (BitVec.ofNat 128 (address.toNat &&& prefixMask 128 (128 - length.val)))

/-- `IPNetwork.prefixlen` -/
def IPNetwork.prefixlen : IPNetwork → Nat
  | .v4 _ length => length.val
  | .v6 _ length => length.val

/-- An address is false as a condition if all its bits are zero. -/
def IPAddress.truthy : IPAddress → Bool
  | .v4 bits => bits ≠ 0
  | .v6 bits => bits ≠ 0

/-- What `netaddr.IPNetwork` and `netaddr.IPAddress` make of a text. -/
structure NetaddrTexts where
  network : String → Except PyError IPNetwork
  address : String → Except PyError IPAddress

/-- The fields of `l2.Subnet` that the routes depend on. -/
structure RoutedSubnet where
  hostRoutes : List HostRoute
  gatewayIp : Option IPAddress := none

/-- `l2.DhcpParams` -/
structure DhcpParams where
  opts : Dict Nat String

/-- A port, with the options that were set for it. -/
structure DhcpClient extends LogicalPort where
  dhcpParams : Option DhcpParams := none

namespace DHCPApp

/-- `DHCP_GATEWAY_ADDR_OPT` -/
def dhcpGatewayAddrOpt : Nat := 3

/-- `DHCP_CLASSLESS_ROUTE_OPT` -/
def dhcpClasslessRouteOpt : Nat := 121

/-- `METADATA_SERVICE_IP` -/
def metadataServiceIp : BitVec 32 := 0xa9fea9fe

/-! ## The routes of a port -/

/-- `str.partition(',')`, without the separator. -/
def partition (text : String) : String × String :=
  (String.ofList (text.toList.takeWhile (· ≠ ',')),
    String.ofList ((text.toList.dropWhile (· ≠ ',')).drop 1))

/-- `lport.dhcp_params.opts` -/
def optsOf (lport : DhcpClient) : Except PyError (Dict Nat String) :=
  match lport.dhcpParams with
  | none => .error .attributeError
  | some params => .ok params.opts

/-- `_get_port_gateway_address`. The gateway of the port is still a text. -/
def getPortGatewayAddress (subnet : RoutedSubnet) (lport : DhcpClient) :
    Except PyError (Option (IPAddress ⊕ String)) :=
  match subnet.gatewayIp with
  | some gateway =>
      if gateway.truthy then .ok (some (.inl gateway))
      else (optsOf lport).map fun opts => (opts.lookup dhcpGatewayAddrOpt).map .inr
  | none => (optsOf lport).map fun opts => (opts.lookup dhcpGatewayAddrOpt).map .inr

section

variable (netaddr : NetaddrTexts) (dfAddLinkLocalRoute : Bool)

/-- The route for metadata requests. A route must have a next hop. -/
def metadataRoutes (lport : DhcpClient) : Except PyError (List HostRoute) :=
  if dfAddLinkLocalRoute then
    match lport.ip with
    | none => .error .validationError
    | some ip => .ok [⟨.v4 metadataServiceIp 32, ip⟩]
  else .ok []

/-- The route in the options of the port. -/
def portRoutes (lport : DhcpClient) : Except PyError (List HostRoute) := do
  match (← optsOf lport).lookup dhcpClasslessRouteOpt with
  | none => return []
  | some opt =>
      if opt = "" then return []
      else
        let destination ← netaddr.network (partition opt).1
        let nexthop ← netaddr.address (partition opt).2
        return [⟨destination, nexthop⟩]

/-- A host that uses the routes ignores the router option. -/
def defaultRoutes (subnet : RoutedSubnet) (lport : DhcpClient) :
    Except PyError (List HostRoute) := do
  match ← getPortGatewayAddress subnet lport with
  | none => return []
  | some (.inl gateway) => return [⟨.v4 0 0, gateway⟩]
  | some (.inr text) =>
      let gateway ← netaddr.address text
      return [⟨.v4 0 0, gateway⟩]

/-- `IPAddress.packed` for IPv4. -/
def packed (bits : BitVec 32) : List UInt8 :=
  [UInt8.ofNat (bits.toNat / 2 ^ 24), UInt8.ofNat (bits.toNat / 2 ^ 16),
    UInt8.ofNat (bits.toNat / 2 ^ 8), UInt8.ofNat bits.toNat]

/-- `addrconv.ipv4.text_to_bin` -/
def textToBin : IPAddress → Except PyError (List UInt8)
  | .v4 bits => .ok (packed bits)
  | .v6 _ => .error .valueError

/-- The record of a route: the width of the mask, the significant octets of the
destination, and the next hop. -/
def routeBin (route : HostRoute) : Except PyError (List UInt8) := do
  let mask := route.destination.prefixlen
  let addrBin ← textToBin route.destination.network
  let destLen := (mask + 7) / 8
  let nexthop ← textToBin route.nexthop
  return UInt8.ofNat mask :: (addrBin.take destLen ++ nexthop)

/-- `_get_host_routes_list_bin` -/
def getHostRoutesListBin (subnet : RoutedSubnet) (lport : DhcpClient) :
    Except PyError (List UInt8) := do
  let metadata ← metadataRoutes dfAddLinkLocalRoute lport
  let port ← portRoutes netaddr lport
  let default ← defaultRoutes netaddr subnet lport
  (subnet.hostRoutes ++ metadata ++ port ++ default).foldlM
    (fun routesBin route => (routeBin route).map (routesBin ++ ·)) []

end

/-! ## Reading the option -/

/-- A route as a client reads it. -/
structure ClasslessRoute where
  network : BitVec 32
  prefixLength : Nat
  nexthop : BitVec 32
  deriving DecidableEq, Repr

/-- The address of four octets. -/
def unpacked (octets : List UInt8) : BitVec 32 :=
  BitVec.ofNat 32 (octets.foldl (fun number octet => number * 256 + octet.toNat) 0)

/-- Octets that the prefix does not need are zeros. -/
def padded (octets : List UInt8) : List UInt8 :=
  octets ++ List.replicate (4 - octets.length) 0

/-- The reader of the option, which has to come to the end of the bytes. -/
def readRoutes (bytes : List UInt8) : Option (List ClasslessRoute) :=
  match bytes with
  | [] => some []
  | length :: rest =>
      let octets := (length.toNat + 7) / 8
      if length.toNat ≤ 32 ∧ octets + 4 ≤ rest.length then
        (readRoutes (rest.drop (octets + 4))).map fun routes =>
          ⟨unpacked (padded (rest.take octets)), length.toNat,
            unpacked ((rest.drop octets).take 4)⟩ :: routes
      else none
termination_by bytes.length
decreasing_by
  rw [List.length_drop, List.length_cons]
  omega

/-! ## Records -/

theorem packed_length (bits : BitVec 32) : (packed bits).length = 4 := rfl

theorem unpacked_packed (bits : BitVec 32) : unpacked (packed bits) = bits := by
  have small := bits.isLt
  apply BitVec.eq_of_toNat_eq
  simp only [unpacked, packed, List.foldl_cons, List.foldl_nil, UInt8.toNat_ofNat',
    BitVec.toNat_ofNat]
  omega

theorem octet_eq_zero {number low : Nat} (isNetwork : 2 ^ (low + 8) ∣ number) :
    UInt8.ofNat (number / 2 ^ low) = 0 := by
  rcases isNetwork with ⟨quotient, isMultiple⟩
  have isOctet : number / 2 ^ low = 256 * quotient := by
    rw [isMultiple, pow_add, mul_assoc, Nat.mul_div_cancel_left _ (Nat.two_pow_pos low)]
    rfl
  apply UInt8.toNat_inj.mp
  rw [isOctet, UInt8.toNat_ofNat']
  exact Nat.mul_mod_right 256 quotient

/-- The octets that a record leaves out are zeros. -/
theorem padded_take_packed {bits : BitVec 32} {length : Nat} (fits : length ≤ 32)
    (isNetwork : 2 ^ (32 - length) ∣ bits.toNat) :
    padded ((packed bits).take ((length + 7) / 8)) = packed bits := by
  have divides : ∀ exponent, exponent ≤ 32 - length → 2 ^ exponent ∣ bits.toNat :=
    fun exponent atMost => (Nat.pow_dvd_pow 2 atMost).trans isNetwork
  have last : 8 ≤ 32 - length → UInt8.ofNat bits.toNat = 0 := fun atMost => by
    have isZero : UInt8.ofNat (bits.toNat / 2 ^ 0) = 0 := octet_eq_zero (divides 8 atMost)
    rwa [pow_zero, Nat.div_one] at isZero
  have third : 16 ≤ 32 - length → UInt8.ofNat (bits.toNat / 2 ^ 8) = 0 :=
    fun atMost => octet_eq_zero (divides 16 atMost)
  have second : 24 ≤ 32 - length → UInt8.ofNat (bits.toNat / 2 ^ 16) = 0 :=
    fun atMost => octet_eq_zero (divides 24 atMost)
  have first : 32 ≤ 32 - length → UInt8.ofNat (bits.toNat / 2 ^ 24) = 0 :=
    fun atMost => octet_eq_zero (divides 32 atMost)
  -- one case for each number of significant octets
  have octets : (length + 7) / 8 = 0 ∧ length = 0 ∨ (length + 7) / 8 = 1 ∧ length ≤ 8 ∨
      (length + 7) / 8 = 2 ∧ length ≤ 16 ∨ (length + 7) / 8 = 3 ∧ length ≤ 24 ∨
      (length + 7) / 8 = 4 := by omega
  rcases octets with ⟨isCount, atMost⟩ | ⟨isCount, atMost⟩ | ⟨isCount, atMost⟩ |
    ⟨isCount, atMost⟩ | isCount
  · rw [isCount]
    unfold packed
    rw [first (by omega), second (by omega), third (by omega), last (by omega)]
    rfl
  · rw [isCount]
    unfold packed
    rw [second (by omega), third (by omega), last (by omega)]
    rfl
  · rw [isCount]
    unfold packed
    rw [third (by omega), last (by omega)]
    rfl
  · rw [isCount]
    unfold packed
    rw [last (by omega)]
    rfl
  · rw [isCount]
    rfl

/-- The network of an address, as a number. -/
def networkBits (address : BitVec 32) (length : Fin 33) : BitVec 32 :=
  BitVec.ofNat 32 (address.toNat &&& prefixMask 32 (32 - length.val))

theorem networkBits_dvd (address : BitVec 32) (length : Fin 33) :
    2 ^ (32 - length.val) ∣ (networkBits address length).toNat := by
  have masked : address.toNat &&& prefixMask 32 (32 - length.val) =
      address.toNat / 2 ^ (32 - length.val) * 2 ^ (32 - length.val) :=
    PrefixMask.and_mask address.isLt (Nat.sub_le 32 length.val)
  have small : address.toNat / 2 ^ (32 - length.val) * 2 ^ (32 - length.val) < 2 ^ 32 :=
    Nat.lt_of_le_of_lt (Nat.div_mul_le_self _ _) address.isLt
  unfold networkBits
  rw [masked, BitVec.toNat_ofNat, Nat.mod_eq_of_lt small]
  exact Nat.dvd_mul_left _ _

/-! ## Routes of IPv4 -/

/-- A route whose destination can have host bits. -/
structure IPv4Route where
  address : BitVec 32
  length : Fin 33
  nexthop : BitVec 32
  deriving DecidableEq, Repr

namespace IPv4Route

def hostRoute (route : IPv4Route) : HostRoute :=
  ⟨.v4 route.address route.length, .v4 route.nexthop⟩

/-- What a client has to learn of the route. -/
def classless (route : IPv4Route) : ClasslessRoute :=
  ⟨networkBits route.address route.length, route.length.val, route.nexthop⟩

/-- The record of the route. -/
def record (route : IPv4Route) : List UInt8 :=
  UInt8.ofNat route.length.val ::
    ((packed (networkBits route.address route.length)).take ((route.length.val + 7) / 8) ++
      packed route.nexthop)

end IPv4Route

theorem routeBin_eq (route : IPv4Route) : routeBin route.hostRoute = .ok route.record := rfl

theorem foldlM_routeBin (routes : List IPv4Route) (start : List UInt8) :
    (routes.map IPv4Route.hostRoute).foldlM
        (fun routesBin route => (routeBin route).map (routesBin ++ ·)) start =
      .ok (start ++ routes.flatMap IPv4Route.record) := by
  induction routes generalizing start with
  | nil =>
      rw [List.flatMap_nil, List.append_nil]
      rfl
  | cons route routes induction =>
      rw [List.map_cons, List.foldlM_cons, routeBin_eq, List.flatMap_cons,
        ← List.append_assoc]
      exact induction (start ++ route.record)

/-- The reader takes one record and is then in step with the next one. -/
theorem readRoutes_record (route : IPv4Route) (rest : List UInt8) :
    readRoutes (route.record ++ rest) = (readRoutes rest).map (route.classless :: ·) := by
  have atMost : route.length.val ≤ 32 := Nat.le_of_lt_succ route.length.isLt
  have isLength : (UInt8.ofNat route.length.val).toNat = route.length.val := by
    rw [UInt8.toNat_ofNat']
    omega
  let destination := (packed (networkBits route.address route.length)).take
    ((route.length.val + 7) / 8)
  have taken : destination.length = (route.length.val + 7) / 8 := by
    rw [List.length_take, packed_length]
    omega
  have isRecord : route.record ++ rest = UInt8.ofNat route.length.val ::
      (destination ++ (packed route.nexthop ++ rest)) := by
    show _ :: ((destination ++ packed route.nexthop) ++ rest) = _
    rw [List.append_assoc]
  have isWhole : (route.length.val + 7) / 8 + 4 =
      (destination ++ packed route.nexthop).length := by
    rw [List.length_append, taken, packed_length]
  have afterRecord : (destination ++ (packed route.nexthop ++ rest)).drop
      ((route.length.val + 7) / 8 + 4) = rest := by
    rw [isWhole, ← List.append_assoc, List.drop_left]
  have isDestination : padded destination = packed (networkBits route.address route.length) :=
    padded_take_packed atMost (networkBits_dvd _ _)
  have isNexthop : (packed route.nexthop ++ rest).take 4 = packed route.nexthop :=
    List.take_left' (packed_length _)
  rw [isRecord, readRoutes]
  simp only [isLength]
  rw [if_pos, afterRecord]
  · rw [← taken, List.take_left, List.drop_left, isDestination, isNexthop, unpacked_packed,
      unpacked_packed]
    rfl
  · refine ⟨atMost, ?_⟩
    rw [isWhole, ← List.append_assoc]
    simp only [List.length_append]
    omega

theorem readRoutes_records (routes : List IPv4Route) :
    readRoutes (routes.flatMap IPv4Route.record) = some (routes.map IPv4Route.classless) := by
  induction routes with
  | nil =>
      rw [List.flatMap_nil, readRoutes]
      rfl
  | cons route routes induction =>
      rw [List.flatMap_cons, readRoutes_record, induction]
      rfl

/-! ## The round trip -/

section

variable (netaddr : NetaddrTexts) (dfAddLinkLocalRoute : Bool)

/-- The route for metadata requests, if it is added. -/
def HasMetadataRoute (lport : DhcpClient) : Option IPv4Route → Prop
  | none => dfAddLinkLocalRoute = false
  | some route => dfAddLinkLocalRoute = true ∧ route.address = metadataServiceIp ∧
      route.length = 32 ∧ lport.ip = some (.v4 route.nexthop)

/-- The route in the options of the port, if there is one. -/
def HasPortRoute (params : DhcpParams) : Option IPv4Route → Prop
  | none => params.opts.lookup dhcpClasslessRouteOpt = none ∨
      params.opts.lookup dhcpClasslessRouteOpt = some ""
  | some route => ∃ text, params.opts.lookup dhcpClasslessRouteOpt = some text ∧ text ≠ "" ∧
      netaddr.network (partition text).1 = .ok (.v4 route.address route.length) ∧
      netaddr.address (partition text).2 = .ok (.v4 route.nexthop)

/-- The subnet has no gateway. -/
def NoGateway (subnet : RoutedSubnet) : Prop :=
  ∀ gateway, subnet.gatewayIp = some gateway → gateway.truthy = false

/-- The route through the gateway of the subnet, or else that of the port. -/
def HasDefaultRoute (subnet : RoutedSubnet) (params : DhcpParams) : Option IPv4Route → Prop
  | none => NoGateway subnet ∧ params.opts.lookup dhcpGatewayAddrOpt = none
  | some route => route.address = 0 ∧ route.length = 0 ∧
      (subnet.gatewayIp = some (.v4 route.nexthop) ∧ route.nexthop ≠ 0 ∨
        NoGateway subnet ∧ ∃ text, params.opts.lookup dhcpGatewayAddrOpt = some text ∧
          netaddr.address text = .ok (.v4 route.nexthop))

variable {netaddr} {dfAddLinkLocalRoute} {subnet : RoutedSubnet} {lport : DhcpClient}
  {params : DhcpParams} {route : Option IPv4Route}

theorem metadataRoutes_eq (has : HasMetadataRoute dfAddLinkLocalRoute lport route) :
    metadataRoutes dfAddLinkLocalRoute lport =
      .ok (route.toList.map IPv4Route.hostRoute) := by
  unfold metadataRoutes
  cases route with
  | none =>
      have isOff : dfAddLinkLocalRoute = false := has
      rw [isOff]
      rfl
  | some route =>
      rcases has with ⟨isOn, isAddress, isLength, isNexthop⟩
      rw [isOn, isNexthop]
      show Except.ok [_] = Except.ok [IPv4Route.hostRoute route]
      rw [IPv4Route.hostRoute, isAddress, isLength]

theorem portRoutes_eq (isParams : lport.dhcpParams = some params)
    (has : HasPortRoute netaddr params route) :
    portRoutes netaddr lport = .ok (route.toList.map IPv4Route.hostRoute) := by
  have isOpts : optsOf lport = .ok params.opts := by rw [optsOf, isParams]
  unfold portRoutes
  rw [isOpts]
  cases route with
  | none =>
      rcases has with absent | isEmpty
      · simp only [bind, Except.bind, absent]
        rfl
      · simp only [bind, Except.bind, isEmpty]
        rfl
  | some route =>
      rcases has with ⟨text, found, notEmpty, isNetwork, isAddress⟩
      simp only [bind, Except.bind, found, if_neg notEmpty, isNetwork, isAddress]
      rfl

theorem getPortGatewayAddress_eq (isParams : lport.dhcpParams = some params)
    (noGateway : NoGateway subnet) :
    getPortGatewayAddress subnet lport =
      .ok ((params.opts.lookup dhcpGatewayAddrOpt).map .inr) := by
  have isOpts : optsOf lport = .ok params.opts := by rw [optsOf, isParams]
  unfold getPortGatewayAddress
  rw [isOpts]
  cases found : subnet.gatewayIp with
  | none => rfl
  | some gateway =>
      have isFalse := noGateway gateway found
      simp only [isFalse]
      rfl

theorem defaultRoutes_eq (isParams : lport.dhcpParams = some params)
    (has : HasDefaultRoute netaddr subnet params route) :
    defaultRoutes netaddr subnet lport = .ok (route.toList.map IPv4Route.hostRoute) := by
  unfold defaultRoutes
  cases route with
  | none =>
      rw [getPortGatewayAddress_eq isParams has.1, has.2]
      rfl
  | some route =>
      rcases route with ⟨address, length, nexthop⟩
      rcases has with ⟨isAddress, isLength, ⟨isGateway, notZero⟩ | ⟨noGateway, text, found, parsed⟩⟩
      · have isFound : getPortGatewayAddress subnet lport =
            .ok (some (.inl (.v4 nexthop))) := by
          have isTrue : (IPAddress.v4 nexthop).truthy = true := decide_eq_true notZero
          unfold getPortGatewayAddress
          rw [isGateway]
          exact if_pos isTrue
        rw [isFound]
        cases isAddress
        cases isLength
        rfl
      · rw [getPortGatewayAddress_eq isParams noGateway, found]
        simp only [bind, Except.bind, Option.map_some, parsed]
        cases isAddress
        cases isLength
        rfl

/-- A client reads the routes of the subnet, and then those for metadata requests, of the
port, and through the gateway. -/
theorem host_routes_round_trip (routes : List IPv4Route)
    {metadataRoute portRoute defaultRoute : Option IPv4Route}
    (isParams : lport.dhcpParams = some params)
    (ofSubnet : subnet.hostRoutes = routes.map IPv4Route.hostRoute)
    (ofMetadata : HasMetadataRoute dfAddLinkLocalRoute lport metadataRoute)
    (ofPort : HasPortRoute netaddr params portRoute)
    (ofGateway : HasDefaultRoute netaddr subnet params defaultRoute) :
    ∃ bytes, getHostRoutesListBin netaddr dfAddLinkLocalRoute subnet lport = .ok bytes ∧
      readRoutes bytes = some ((routes ++ metadataRoute.toList ++ portRoute.toList ++
        defaultRoute.toList).map IPv4Route.classless) := by
  refine ⟨_, ?_, readRoutes_records _⟩
  unfold getHostRoutesListBin
  rw [metadataRoutes_eq ofMetadata, portRoutes_eq isParams ofPort,
    defaultRoutes_eq isParams ofGateway, ofSubnet]
  have built := foldlM_routeBin (routes ++ metadataRoute.toList ++ portRoute.toList ++
    defaultRoute.toList) []
  rw [List.map_append, List.map_append, List.map_append] at built
  exact built

end

namespace Sample

/-- `netaddr` on a few texts. -/
def netaddr : NetaddrTexts where
  network := fun text =>
    if text = "192.168.7.0/24" then .ok (.v4 0xc0a80700 24) else .error .addrFormatError
  address := fun text =>
    if text = "10.0.0.9" then .ok (.v4 0x0a000009) else .error .addrFormatError

/-- A subnet whose host route has host bits. -/
def subnet : RoutedSubnet where
  hostRoutes := [⟨.v4 0x0a0102ff 20, .v4 0x0a000002⟩]
  gatewayIp := some (.v4 0x0a000001)

def params : DhcpParams := ⟨(∅ : Dict Nat String).insert 121 "192.168.7.0/24,10.0.0.9"⟩

def client : DhcpClient := { id := "port", ips := [.v4 0x0a000005], dhcpParams := some params }

end Sample

open Sample in
theorem host_routes_round_trip_sample :
    ∃ bytes, getHostRoutesListBin netaddr true subnet client = .ok bytes ∧
      readRoutes bytes = some [⟨0x0a010000, 20, 0x0a000002⟩, ⟨0xa9fea9fe, 32, 0x0a000005⟩,
        ⟨0xc0a80700, 24, 0x0a000009⟩, ⟨0, 0, 0x0a000001⟩] := by
  have isPort : HasPortRoute netaddr params (some ⟨0xc0a80700, 24, 0x0a000009⟩) :=
    ⟨"192.168.7.0/24,10.0.0.9", by decide +kernel, by decide +kernel, by decide +kernel,
      by decide +kernel⟩
  have isMetadata : HasMetadataRoute true client (some ⟨0xa9fea9fe, 32, 0x0a000005⟩) :=
    ⟨rfl, rfl, rfl, rfl⟩
  have isDefault : HasDefaultRoute netaddr subnet params (some ⟨0, 0, 0x0a000001⟩) :=
    ⟨rfl, rfl, Or.inl ⟨rfl, by decide⟩⟩
  exact host_routes_round_trip [⟨0x0a0102ff, 20, 0x0a000002⟩] rfl rfl isMetadata isPort
    isDefault

end DHCPApp

end Dragonflow
