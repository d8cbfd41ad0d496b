import ApexiDevices.Management.RemoteConfig
import ApexiDevices.Rotation.AppBearerRotation

set_option autoImplicit false

/-!
# Desired management state

One document has a configuration, an assignment and a credential rotation. Each
section is checked by a parser of its own, and the last two take effect before
the document as a whole is accepted.
-/

namespace ApexiDevices

open Device

namespace LiveUpload

structure Assignment where
  targetSessionId : CText := .empty
  plannedSessionName : CText := .empty
  status : CText := .empty
  role : CText := .empty
  expiresAt : CText := .empty
  sourceSessionId : CText := .empty
  recordingSessionId : CText := .empty
  deriving DecidableEq

structure StatusDiagnostics where
  desiredVersion : UInt32 := 0
  configStale : Option Bool := none
  configRejected : Option Bool := none

namespace StatusDiagnostics

def observeDesired (diagnostics : StatusDiagnostics) (desired applied : UInt32) : StatusDiagnostics :=
  let desiredVersion := if diagnostics.desiredVersion < desired then desired else diagnostics.desiredVersion
  { diagnostics with desiredVersion, configStale := some (applied < desiredVersion) }

def configurationAccepted (diagnostics : StatusDiagnostics) : StatusDiagnostics :=
  { diagnostics with configRejected := some false }

end StatusDiagnostics

def isValidRecorderAssignmentStatus (status : CText) : Bool :=
  ["unassigned", "armed", "claimed", "finished", "revoked", "expired"].any fun known => status == .literal known

namespace Assignment

def read (assignment : Document.Object) : Assignment where
  targetSessionId := (assignment.get "target_session_id").text
  plannedSessionName := (assignment.get "planned_session_name").text
  status := (assignment.get "status").text
  role := (assignment.get "role").text
  expiresAt := (assignment.get "expires_at").text
  sourceSessionId := (assignment.get "source_session_id").text
  recordingSessionId := (assignment.get "recording_session_id").text

def valid (assignment : Assignment) : Bool :=
  isValidRecorderAssignmentStatus assignment.status &&
    validOptionalRemoteText assignment.targetSessionId 96 && validOptionalRemoteText assignment.plannedSessionName 200 &&
    validOptionalRemoteText assignment.role 16 && validOptionalRemoteText assignment.expiresAt 64 &&
    validOptionalRemoteText assignment.sourceSessionId 96 && validOptionalRemoteText assignment.recordingSessionId 96

end Assignment

end LiveUpload

open LiveUpload in
structure LiveUpload where
  deviceId : CText := .empty
  protocol : AppConfig.Protocol := .mqtt
  appliedConfigVersion : UInt32 := 0
  -- whether an authorization is attached, which then has the rotations
  authorization : Bool := false
  bearerRotation : Option AppBearerRotation := none
  pendingRemoteConfig : RemoteConfig := {}
  hasPendingRemoteConfig : Bool := false
  assignment : Assignment := {}
  managementStatus : String := ""
  managementError : String := ""
  diagnostics : StatusDiagnostics := {}

namespace LiveUpload

variable (self : LiveUpload)

def parseAssignment (assignment : Option Document.Object) : Bool × LiveUpload :=
  match assignment with
  | none => (true, self)
  | some assignment =>
    if (Assignment.read assignment).valid then (true, { self with assignment := .read assignment })
    else (false, self)

def rotationKeys : List String := ["type", "version", "nonce", "token", "overlap_expires_at"]

/-- What `stage` is called with, when the section has just the members of a rotation. -/
structure RotationRequest where
  version : UInt32
  nonce : CText
  token : CText
  overlapExpiresAt : CText

def rotationRequest (rotation : Document.Object) : Option RotationRequest := do
  guard ((rotation.get "type").text == .literal "app_bearer")
  let version ← (rotation.get "version").uint?
  let nonce ← (rotation.get "nonce").text?
  let token ← (rotation.get "token").text?
  let overlapExpiresAt ← (rotation.get "overlap_expires_at").text?
  guard (rotation.all fun (key, _) => rotationKeys.any fun known => key == .literal known)
  return { version, nonce, token, overlapExpiresAt }

def manager : Option AppBearerRotation := if self.protocol = .https then self.bearerRotation else none

def stageRotation (rotation : AppBearerRotation) (request : RotationRequest) :
    AppBearerRotation.Auth (Bool × LiveUpload) := do
  let (result, rotation) ← rotation.stage request.version request.nonce.string request.token.string
    request.overlapExpiresAt.string
  let self := { self with bearerRotation := some rotation }
  match result with
  | .rejected | .storageFault => return (false, { self with managementError := rotation.lastError })
  | .alreadyApplied => return (true, { self with managementStatus := "applied" })
  | .staged | .alreadyPending => return (true, { self with managementStatus := "pending" })

def parseCredentialRotation (rotation : Option Document.Object) : AppBearerRotation.Auth (Bool × LiveUpload) :=
  if self.authorization then return (rotation.isNone || self.protocol == .https, self)
  else
    match rotation with
    | none => return (true, self)
    | some rotation =>
      match self.manager, rotationRequest rotation with
      | some manager, some request => self.stageRotation manager request
      | _, _ => return (false, self)

def section? (document : Document) : Option (Option Document.Object) :=
  if document.isNull then some none else document.object?.map some

/-- A document addressed to this device, and the version of its configuration. -/
def addressed (library : JsonLibrary) (payload : Bytes) : Option (Document × UInt32) := do
  guard (payload.length != 0 && payload.length ≤ kRemoteConfigJsonCapacity)
  let document ← library.deserialize kRemoteConfigJsonCapacity payload
  guard (library.asInt (document.member "schema_version") == 1 &&
    (document.member "device_id").text == self.deviceId)
  let version ← (document.member "config_version").uint?
  return (document, version)

def candidate? (library : JsonLibrary) (payload : Bytes) (version : UInt32) : Option (Option RemoteConfig) :=
  if self.appliedConfigVersion < version then (parseRemoteConfig library self.deviceId payload).map some
  else some none

def settle (candidate : Option RemoteConfig) : LiveUpload :=
  let self :=
    match candidate with
    | some candidate =>
      { self with pendingRemoteConfig := candidate, hasPendingRemoteConfig := true, managementStatus := "pending" }
    | none =>
      { self with
        managementStatus := if self.bearerRotation.any AppBearerRotation.hasCandidate then "pending" else "applied" }
  { self with managementError := "", diagnostics := self.diagnostics.configurationAccepted }

def finish (document : Document) (candidate : Option RemoteConfig) : AppBearerRotation.Auth (Bool × LiveUpload) :=
  match section? (document.member "credential_rotation") with
  | none => return (false, self)
  | some rotation => do
    let (valid, self) ← self.parseCredentialRotation rotation
    return if valid then (true, self.settle candidate) else (false, self)

/-- The sections in front of the rotation: the state with the assignment, and the document when all of them are
accepted. -/
def readSections (library : JsonLibrary) (payload : Bytes) : LiveUpload × Option (Document × Option RemoteConfig) :=
  match self.addressed library payload with
  | none => (self, none)
  | some (document, version) =>
    let self := { self with diagnostics := self.diagnostics.observeDesired version self.appliedConfigVersion }
    match self.candidate? library payload version, section? (document.member "assignment") with
    | some candidate, some assignment =>
      let (valid, self) := self.parseAssignment assignment
      (self, if valid then some (document, candidate) else none)
    | _, _ => (self, none)

def consumeDesiredState (library : JsonLibrary) (payload : Bytes) : AppBearerRotation.Auth (Bool × LiveUpload) :=
  match self.readSections library payload with
  | (self, none) => return (false, self)
  | (self, some (document, candidate)) => self.finish document candidate

end LiveUpload

end ApexiDevices
