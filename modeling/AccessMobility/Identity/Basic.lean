import AccessMobility.Identity.Plmn

/-!
# Network identities

Identities of the AMF, of tracking areas, slices, cells and radio nodes, in the text form used
between network functions, and the two access types a subscriber is served over.
-/

namespace AccessMobility

/-- A globally unique AMF identifier. -/
structure Guami where
  plmnId : PlmnId
  /-- Region, set and pointer, as six hexadecimal digits. -/
  amfId : String
  deriving DecidableEq, Inhabited

/-- A tracking area identity. -/
structure Tai where
  plmnId : PlmnId
  /-- The tracking area code in hexadecimal digits. -/
  tac : String
  deriving DecidableEq, Inhabited

/-- A network slice. -/
structure Snssai where
  sst : UInt8
  sd : Option String
  deriving DecidableEq, Inhabited

/-- A PLMN with its supported slices. -/
structure PlmnSnssai where
  plmnId : PlmnId
  slices : List Snssai
  deriving DecidableEq, Inhabited

/-- The identity a radio node announces; at most one of the three node identifiers is usual. -/
structure GlobalRanNodeId where
  plmnId : PlmnId
  gnbId : Option String
  ngEnbId : Option String
  n3iwfId : Option String
  deriving DecidableEq, Inhabited

/-- An NR cell. -/
structure Ncgi where
  plmnId : PlmnId
  nrCellId : String
  deriving DecidableEq, Inhabited

/-- An E-UTRA cell. -/
structure Ecgi where
  plmnId : PlmnId
  eutraCellId : String
  deriving DecidableEq, Inhabited

/-- The access a UE is served over, with its own connection and registration state. -/
inductive AccessType where
  | threeGpp
  | nonThreeGpp
  deriving DecidableEq, Inhabited

namespace AccessType

def all : List AccessType := [threeGpp, nonThreeGpp]

def text : AccessType → String
  | threeGpp => "3GPP_ACCESS"
  | nonThreeGpp => "NON_3GPP_ACCESS"

end AccessType

/-- One value for each access type. -/
structure PerAccess (α : Type) where
  threeGpp : α
  nonThreeGpp : α
  deriving DecidableEq, Inhabited

namespace PerAccess

def both (value : α) : PerAccess α :=
  ⟨value, value⟩

def get (values : PerAccess α) : AccessType → α
  | .threeGpp => values.threeGpp
  | .nonThreeGpp => values.nonThreeGpp

def set (values : PerAccess α) (access : AccessType) (value : α) : PerAccess α :=
  match access with
  | .threeGpp => { values with threeGpp := value }
  | .nonThreeGpp => { values with nonThreeGpp := value }

def map (f : α → β) (values : PerAccess α) : PerAccess β :=
  ⟨f values.threeGpp, f values.nonThreeGpp⟩

@[simp] theorem get_set (values : PerAccess α) (access other : AccessType) (value : α) :
    (values.set access value).get other = if access = other then value else values.get other := by
  cases access <;> cases other <;> rfl

@[simp] theorem get_map (f : α → β) (values : PerAccess α) (access : AccessType) :
    (values.map f).get access = f (values.get access) := by
  cases access <;> rfl

@[simp] theorem get_both (value : α) (access : AccessType) :
    (both value).get access = value := by
  cases access <;> rfl

end PerAccess

/-- What kind of node is behind a connection. -/
inductive RadioNodeKind where
  | gnb
  | ngEnb
  | n3iwf
  deriving DecidableEq, Inhabited

namespace GlobalRanNodeId

/-- An N3IWF identifier outranks an ng-eNB identifier, and that outranks a gNB identifier. -/
def kind (id : GlobalRanNodeId) : RadioNodeKind :=
  if id.n3iwfId.isSome then .n3iwf
  else if id.ngEnbId.isSome then .ngEnb
  else .gnb

end GlobalRanNodeId

/-- An N3IWF serves non-3GPP access, every other node 3GPP access. -/
def RadioNodeKind.access : RadioNodeKind → AccessType
  | .n3iwf => .nonThreeGpp
  | .gnb | .ngEnb => .threeGpp

/-- The registration state of a UE over one access. -/
inductive GmmState where
  | deregistered
  | authentication
  | securityMode
  | contextSetup
  | registered
  | deregistrationInitiated
  deriving DecidableEq, Inhabited

namespace GmmState

def all : List GmmState :=
  [deregistered, authentication, securityMode, contextSetup, registered, deregistrationInitiated]

def text : GmmState → String
  | deregistered => "Deregistered"
  | authentication => "Authentication"
  | securityMode => "SecurityMode"
  | contextSetup => "ContextSetup"
  | registered => "Registered"
  | deregistrationInitiated => "DeregistrationInitiated"

def ofText? (text : String) : Option GmmState :=
  all.find? fun state => state.text = text

end GmmState

/-- The transport association of a radio node. -/
structure Connection where
  association : Nat
  deriving DecidableEq, Inhabited

namespace Connection

/-- The connection that never identifies a radio node. -/
def invalid : Connection := ⟨0⟩

def IsValid (connection : Connection) : Prop :=
  connection.association ≠ 0

instance (connection : Connection) : Decidable connection.IsValid :=
  inferInstanceAs (Decidable (_ ≠ _))

def text (connection : Connection) : String :=
  "assoc:" ++ toString connection.association

end Connection

/-- The pool id that names no object. -/
def PoolId.invalid : Nat := 0

namespace NgapId

/-- The AMF UE NGAP id that names no connection. -/
def invalid : Nat := 18446744073709551615

/-- The largest AMF UE NGAP id of the protocol, of 40 bits. -/
def protocolMax : Int := 1099511627775

/-- A signed pool value as an unsigned 64-bit identifier. -/
def ofSigned (value : Int) : Nat :=
  (value % 18446744073709551616).toNat

/-- The signed pool value of an identifier. -/
def toSigned (id : Nat) : Int :=
  Int.bmod id 18446744073709551616

end NgapId

namespace Tmsi

/-- How a missing 5G-TMSI is written. -/
def invalid : Int := -1

def largest : Int := 2147483647

def smallest : Int := -2147483648

/-- Eight hexadecimal digits of a 32-bit value, negative ones in two's complement. -/
def text (tmsi : Int) : String :=
  String.ofList (Hex.fixed 8 (tmsi % 4294967296).toNat)

@[simp] theorem length_text (tmsi : Int) : (text tmsi).length = 8 := by
  rw [text, String.length_ofList, Hex.length_fixed]

/-- Different 5G-TMSIs are written differently. -/
theorem text_injective {left right : Int} (hleft : 0 ≤ left ∧ left ≤ largest)
    (hright : 0 ≤ right ∧ right ≤ largest) (heq : text left = text right) : left = right := by
  have hdigits := String.ofList_injective heq
  have hpow : Nat.pow 16 8 = 4294967296 := rfl
  unfold largest at hleft hright
  have hnat := Hex.fixed_injective (by rw [hpow]; omega) (by rw [hpow]; omega) hdigits
  omega

/-- Two texts that end in a 5G-TMSI each are the same only if the 5G-TMSIs are. -/
theorem eq_of_append_text {left right : Int} {before other : String}
    (hleft : 0 ≤ left ∧ left ≤ largest) (hright : 0 ≤ right ∧ right ≤ largest)
    (heq : before ++ text left = other ++ text right) : left = right := by
  have hlists := congrArg String.toList heq
  rw [String.toList_append, String.toList_append] at hlists
  have hlength : (text left).toList.length = (text right).toList.length := by
    rw [String.length_toList, String.length_toList, length_text, length_text]
  exact text_injective hleft hright (String.toList_inj.mp (List.append_inj' hlists hlength).2)

end Tmsi

end AccessMobility
