import ImmoApp.Crm.Tables
import ImmoApp.Foundation.Dict
import ImmoApp.Foundation.Runs

/-!
# The life cycle of a contract

A contract is created as a draft, printed, signed and perhaps cancelled; signing archives its client and takes its
listing off the market, cancelling a signed one puts both back.

`Desk` runs calls side by side.  The updates of one call take effect together, but signing and cancelling first read the
contract without a lock: the read and the updates of these two calls are separate steps.
-/

namespace ImmoApp.Crm

structure ContractInput where
  clientId : ℕ
  listingId : ℕ
  contractType : ContractType
  status : ContractStatus
  details : ContractDetails

namespace Contracts

/-- `create_contract`: both parties must be live and of one agency. -/
def createContract (data : ContractInput) (now : ℕ) (db : Db) : Except WriteError Db :=
  match db.clients.find? data.clientId, db.listings.find? data.listingId with
  | some c, some l =>
    if c.live && l.live && c.columns.agencyId == l.columns.agencyId then
      .ok { db with
        contracts := db.contracts.insert
          { agencyId := c.columns.agencyId
            clientId := c.id
            listingId := l.id
            contractType := data.contractType
            status := data.status
            details := data.details } now }
    else .error (.valueError "client and listing must belong to the same active agency")
  | _, _ => .error (.valueError "client and listing must belong to the same active agency")

def raiseContractTransitionFailure (contractId : ℕ) (message : String) (db : Db) : WriteError :=
  match db.contracts.find? contractId with
  | some r => if r.live then .conflict message none else .notFound "Contract not found"
  | none => .notFound "Contract not found"

/-- The row a transition looks for: the contract, live and in a status the transition starts from. -/
def starts (contractId : ℕ) (allowed : ContractStatus → Bool) (r : Row ContractColumns) : Bool :=
  r.id == contractId && r.live && allowed r.columns.status

def transition (contractId : ℕ) (allowed : ContractStatus → Bool)
    (f : Row ContractColumns → Row ContractColumns) (message : String) (db : Db) :
    Except WriteError Db :=
  if db.contracts.rowcount (starts contractId allowed) = 0 then
    .error (raiseContractTransitionFailure contractId message db)
  else .ok { db with contracts := db.contracts.update (starts contractId allowed) fun r => (f r).bump }

/-- `SET status = …, updated_at = now`. -/
def setStatus (status : ContractStatus) (now : ℕ) : Row ContractColumns → Row ContractColumns :=
  Row.write (fun c => { c with status := status }) now

def deleteContract (contractId now : ℕ) : Db → Except WriteError Db :=
  transition contractId (fun s => s == .draft || s == .cancelled) (Row.delete now)
    "Only draft or cancelled contracts can be deleted"

def printContract (contractId now : ℕ) : Db → Except WriteError Db :=
  transition contractId (fun s => s == .draft) (setStatus .pendingSignature now)
    "Only draft contracts can be marked pending signature"

/-- `UPDATE clients SET status = … WHERE id = … AND deleted_at IS NULL`. -/
def updateClientStatus (clientId : ℕ) (status : ClientStatus) (db : Db) : Db :=
  { db with
    clients := db.clients.update (fun r => r.id == clientId && r.live)
      fun r => (r.set fun c => { c with status := status }).bump }

/-- `UPDATE listings SET status = … WHERE id = … AND deleted_at IS NULL`. -/
def updateListingStatus (listingId : ℕ) (status : ListingStatus) (db : Db) : Db :=
  { db with
    listings := db.listings.update (fun r => r.id == listingId && r.live)
      fun r => (r.set fun c => { c with status := status }).bump }

def activateContract (contractId : ℕ) (contractType : ContractType) (clientId listingId now : ℕ)
    (db : Db) : Except WriteError Db :=
  (transition contractId (fun s => s == .pendingSignature) (setStatus .signed now)
    "Only pending-signature contracts can be signed" db).map fun db =>
      updateListingStatus listingId (if contractType = .rent then .rented else .sold) (updateClientStatus clientId
          (if contractType = .rent then .archivedRented else .archivedSold) db)

def cancelContract (contractId clientId listingId : ℕ) (wasSigned restoreStatus : Bool) (now : ℕ)
    (db : Db) : Except WriteError Db :=
  (transition contractId (fun s => s == .draft || s == .pendingSignature || s == .signed)
    (setStatus .cancelled now) "Only active contracts can be cancelled" db).map fun db =>
      if wasSigned && restoreStatus then
        updateListingStatus listingId .available (updateClientStatus clientId .active db)
      else db

def restoreContract (contractId now : ℕ) (db : Db) : Db :=
  { db with
    contracts := db.contracts.update (fun r => r.id == contractId)
      fun r => (r.restore now).bump }

def purgeContract (contractId : ℕ) (db : Db) : Db :=
  { db with contracts := db.contracts.delete fun r => r.id == contractId }

/-- `get_contract_by_id` without the deleted ones. -/
def getContractById (contractId : ℕ) (db : Db) : Option (Row ContractColumns) :=
  (db.contracts.find? contractId).filter Row.live

end Contracts

/-! ### The service -/

/-- `create_contract` of the service: a contract starts as a draft, and only a lease has an end. -/
def createContract (data : ContractInput) (now : ℕ) (db : Db) : Except WriteError Db :=
  if data.status = .draft then
    Contracts.createContract
      { data with
        details := { data.details with
          endDate := if data.contractType = .rent then data.details.endDate else none } } now db
  else .error (.valueError "Contracts must be created in draft status")

inductive PendingCall where
  | activate (contract : Row ContractColumns)
  /-- `cancel_contract` with `restore_status`. -/
  | cancel (contract : Row ContractColumns)

def PendingCall.contract : PendingCall → Row ContractColumns
  | .activate contract | .cancel contract => contract

def PendingCall.write (now : ℕ) (db : Db) : PendingCall → Except WriteError Db
  | .activate c => Contracts.activateContract c.id c.columns.contractType c.columns.clientId
      c.columns.listingId now db
  | .cancel c => Contracts.cancelContract c.id c.columns.clientId c.columns.listingId
      (c.columns.status == .signed) true now db

structure Desk where
  db : Db
  pending : Dict ℕ PendingCall

inductive ContractAction where
  | create (data : ContractInput) (now : ℕ)
  | print (contractId now : ℕ)
  /-- `activate_contract` reads its contract. -/
  | readToActivate (call contractId : ℕ)
  /-- `cancel_contract` reads its contract. -/
  | readToCancel (call contractId : ℕ)
  | finish (call now : ℕ)
  | delete (contractId now : ℕ)
  | restore (contractId now : ℕ)
  | purge (contractId : ℕ)

def Desk.read (s : Desk) (call contractId : ℕ) (p : Row ContractColumns → PendingCall) : Desk :=
  match Contracts.getContractById contractId s.db with
  | some contract => { s with pending := s.pending.set call (p contract) }
  | none => s

def Desk.step (s : Desk) : ContractAction → Option Desk
  | .create data now => some { s with db := committed s.db (createContract data now s.db) }
  | .print contractId now =>
    some { s with db := committed s.db (Contracts.printContract contractId now s.db) }
  | .readToActivate call contractId => some (s.read call contractId .activate)
  | .readToCancel call contractId => some (s.read call contractId .cancel)
  | .finish call now => (s.pending.get? call).map fun p =>
      { db := committed s.db (p.write now s.db), pending := s.pending.erase call }
  | .delete contractId now =>
    some { s with db := committed s.db (Contracts.deleteContract contractId now s.db) }
  | .restore contractId now => some { s with db := Contracts.restoreContract contractId now s.db }
  | .purge contractId => some { s with db := Contracts.purgeContract contractId s.db }

end ImmoApp.Crm
