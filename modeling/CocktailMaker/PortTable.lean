import Mathlib.Data.String.Basic
import CocktailMaker.FiniteMap

/-!
# The ports of a pod and the table of open ones

A pod has two ttys, one for the protocol and one for its log.  udev describes
each of them, and from the description follow its role and the identity of the
pod behind it.  A `PortTable` holds the devnode that is open for each identity.
An entry is claimed before the port is opened and erased again when that fails;
later it is released by the devnode that udev reports as removed.
-/

namespace CocktailMaker

/-- `PodHardwareId`, a strong type over a string. -/
abbrev PodHardwareId := String

inductive PortRole
  | protocol
  | log
  deriving DecidableEq, Repr

/-- The identifying attributes of one tty. -/
structure UsbTtyInfo where
  devnode : String
  vendorId : String
  productId : String
  deviceSerial : Option String
  interfaceName : Option String
  interfaceNumber : Option String
  deriving DecidableEq, Repr

def targetVid : String := "2fe3"

def targetPid : String := "0001"

def protocolInterfaceName : String := "Cocktailmaker Pod Protocol"

def logInterfaceName : String := "Cocktailmaker Pod Log"

def protocolInterfaceNumber : String := "02"

def logInterfaceNumber : String := "00"

def isPodDevice (info : UsbTtyInfo) : Bool :=
  info.vendorId == targetVid && info.productId == targetPid

/-- The interface name decides when there is one; only without a name does the
interface number. -/
def portRole (info : UsbTtyInfo) : Option PortRole :=
  match info.interfaceName with
  | some name =>
      if name = protocolInterfaceName then some .protocol
      else if name = logInterfaceName then some .log
      else none
  | none =>
      if info.interfaceNumber = some protocolInterfaceNumber then
        some .protocol
      else if info.interfaceNumber = some logInterfaceNumber then some .log
      else none

/-- The serial number of the device, or its devnode without one. -/
def podIdentity (info : UsbTtyInfo) : PodHardwareId :=
  info.deviceSerial.getD info.devnode

structure PodPort where
  role : PortRole
  info : UsbTtyInfo
  deriving DecidableEq, Repr

def PodPort.identity (port : PodPort) : PodHardwareId :=
  podIdentity port.info

/-- The devnode of each identity.  The entries iterate in the order of the
identities. -/
abbrev PortTable := FiniteMap PodHardwareId String

namespace PortTable

variable {table next : PortTable} {id other : PodHardwareId} {devnode : String}

/-- Reserve `id`, unless it has an entry already.  The claim is dropped with
`erase` when it is not committed. -/
def claim (table : PortTable) (id : PodHardwareId) (devnode : String) :
    Option PortTable :=
  if id ∈ table then none else some (table.insert id devnode)

/-- The identities whose entry has this devnode. -/
def identitiesAt (table : PortTable) (devnode : String) : List PodHardwareId :=
  (table.entries.filter fun entry => entry.2 = devnode).map Sigma.fst

/-- Remove the first entry with this devnode. -/
def releaseByDevnode (table : PortTable) (devnode : String) :
    Option (PodHardwareId × PortTable) :=
  (table.identitiesAt devnode).min?.map fun id => (id, table.erase id)

theorem claim_eq_none_iff : table.claim id devnode = none ↔ id ∈ table := by
  simp [claim]

theorem mem_of_claim_eq_some (claimed : table.claim id devnode = some next) :
    id ∉ table ∧ ∀ other, other ∈ next ↔ other = id ∨ other ∈ table := by
  simp only [claim, Option.ite_none_left_eq_some, Option.some.injEq] at claimed
  obtain ⟨absent, rfl⟩ := claimed
  exact ⟨absent, fun other => AList.mem_insert _⟩

/-- Dropping an uncommitted claim restores what the table holds. -/
theorem mem_erase_of_claim_eq_some
    (claimed : table.claim id devnode = some next) (other : PodHardwareId) :
    other ∈ next.erase id ↔ other ∈ table := by
  obtain ⟨absent, held⟩ := mem_of_claim_eq_some claimed
  rw [AList.mem_erase, held]
  constructor
  · rintro ⟨distinct, same | member⟩
    · exact absurd same distinct
    · exact member
  · rintro member
    exact ⟨ne_of_mem_of_not_mem member absent, .inr member⟩

theorem mem_of_mem_identitiesAt (member : id ∈ table.identitiesAt devnode) :
    id ∈ table := by
  simp only [identitiesAt, List.mem_map, List.mem_filter] at member
  obtain ⟨entry, ⟨stored, -⟩, rfl⟩ := member
  exact AList.mem_keys.mpr (List.mem_map_of_mem stored)

theorem mem_of_releaseByDevnode_eq_some
    (released : table.releaseByDevnode devnode = some (id, next)) :
    id ∈ table ∧ ∀ other, other ∈ next ↔ other ≠ id ∧ other ∈ table := by
  simp only [releaseByDevnode, Option.map_eq_some_iff, Prod.mk.injEq]
    at released
  obtain ⟨first, isFirst, rfl, rfl⟩ := released
  have listed := List.min?_mem isFirst
  exact ⟨mem_of_mem_identitiesAt listed, fun other => AList.mem_erase⟩

end PortTable

end CocktailMaker
