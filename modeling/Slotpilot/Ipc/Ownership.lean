import Mathlib
import Slotpilot.Lib.Concurrent
import Slotpilot.Lib.StateResult

/-!
# Ownership of the local endpoint

Daemons of any users and directories start, serve, stop and are killed, in any interleaving of their single calls of the
operating system, each of which may fail. Before it touches the endpoint a daemon locks a file beside it; the lock goes
with the open file, so that it is free again after a crash, while the name of a Unix socket stays behind. Only the owner
of the lock removes such a name, and gives the lock back after its listener.

* `Os`, `OsCall.exec`: the files, locks and endpoints, and the effect of one call;
* `Libraries.Documented`: what the libraries for file locks and local sockets do, which `systemLibraries` does;
* `forUser`, `bind`, `serveExchange`, `dropServer`: what a daemon does;
* `Owned`: what holds in every world, `upholds_owned`: every call keeps it;
* `endpoint_owned`: there is one daemon at an endpoint, its name leads to it, and it serves its own user only;
* `endpoint_taken_over`: a start that is left alone succeeds exactly when no living daemon has the lock.
-/

set_option autoImplicit false

namespace Slotpilot.Ipc.Ownership

open Slotpilot.Lib

/-! ## Addresses -/

/-- The components of a path. -/
abbrev Path : Type := List String

inductive Platform
  | unix
  | windows
  deriving DecidableEq

inductive EndpointKind
  | unixSocket (path : Path)
  | windowsNamedPipe (name : String)
  deriving DecidableEq

structure EndpointAddress where
  kind : EndpointKind
  lockPath : Path

/-- Failures of the operating system. -/
inductive OsError
  | contended
  | addressInUse
  | notFound
  | isDirectory
  | notDirectory
  | refused
  | other (code : Nat)
  deriving DecidableEq

/-- The failures of an endpoint, beside those of its frames. -/
inductive EndpointError
  | os (error : OsError)
  | endpointActive
  | insecureRuntimeDirectory
  | invalidUserScope
  | unsupportedEndpoint
  | crossUserRejected
  | peerIdentityUnavailable
  | cancelled
  deriving DecidableEq

def validScope (userScope : String) : Bool :=
  1 ≤ userScope.utf8ByteSize && userScope.utf8ByteSize ≤ 64 &&
    userScope.toList.all fun c => c.isAlphanum || c = '-' || c = '_'

def lockPathOf (runtimeDirectory : Path) : Path := runtimeDirectory ++ ["slotpilot.lock"]

def Platform.kindOf (runtimeDirectory : Path) (userScope : String) : Platform → EndpointKind
  | .unix => .unixSocket (runtimeDirectory ++ ["slotpilot.sock"])
  | .windows => .windowsNamedPipe ("slotpilot-" ++ userScope)

/-! ## The operating system -/

structure Metadata where
  isDir : Bool
  uid : Nat
  mode : Nat

/-- A directory of a user that nobody else may use. -/
def Metadata.PrivateTo (found : Metadata) (euid : Nat) : Prop :=
  found.isDir = true ∧ found.uid = euid ∧ found.mode &&& 0o077 = 0

instance (found : Metadata) (euid : Nat) : Decidable (found.PrivateTo euid) :=
  inferInstanceAs (Decidable (_ ∧ _))

/-- A lock file that a daemon has opened. -/
structure LockFile where
  path : Path
  daemon : Nat
  serial : Nat
  deriving DecidableEq

/-- A listener of a daemon, with the name that it was created at. -/
structure Listener where
  name : EndpointKind
  daemon : Nat
  serial : Nat
  deriving DecidableEq

/-- What is at the name of an endpoint: a file that nobody listens on, a directory, or a socket or pipe. -/
inductive Entry
  | file
  | directory
  | socket (listener : Listener) (mode : Nat)

/-- What a peer's credentials tell. -/
structure PeerCreds where
  euid : Option Nat
  pid : Option Nat

/-- An accepted connection. -/
structure Stream where
  peerCreds : Except OsError PeerCreds

/-- The state that all daemons share. A fault is the code of the error that the next call fails with. -/
structure Os where
  directories : Path → Option Metadata
  locks : Path → Option LockFile
  endpoints : EndpointKind → Option Entry
  serials : Nat
  socketMode : Nat
  killed : Nat → Bool
  faults : List (Option Nat)

/-- The calls of a daemon. -/
inductive OsCall
  | createDirectory (path : Path)
  | metadata (path : Path)
  | openLock (path : Path)
  | tryLockExclusive (file : LockFile)
  | closeLock (file : LockFile)
  | pathExists (path : Path)
  | removeFile (path : Path)
  | createListener (kind : EndpointKind)
  | setPermissions (path : Path) (mode : Nat)
  | dropListener (listener : Listener)
  | exchangeFrames (listener : Listener) (stream : Stream)

@[reducible] def OsCall.Answer : OsCall → Type
  | .metadata _ => Except OsError Metadata
  | .openLock _ => Except OsError LockFile
  | .pathExists _ => Bool
  | .createListener _ => Except OsError Listener
  | .closeLock _ => Unit
  | .dropListener _ => Unit
  | .exchangeFrames _ _ => Unit
  | _ => Except OsError Unit

/-- What a call that fails answers. -/
def OsCall.failed (error : OsError) : (call : OsCall) → call.Answer
  | .createDirectory _ => .error error
  | .metadata _ => .error error
  | .openLock _ => .error error
  | .tryLockExclusive _ => .error error
  | .closeLock _ => ()
  | .pathExists _ => false
  | .removeFile _ => .error error
  | .createListener _ => .error error
  | .setPermissions _ _ => .error error
  | .dropListener _ => ()
  | .exchangeFrames _ _ => ()

/-- Listeners are closed: the name of a Unix socket stays, that of a pipe does not. -/
def Os.close (platform : Platform) (s : Os) (closed : Listener → Bool) : Os :=
  { s with
    endpoints := fun name =>
      match s.endpoints name with
      | some (.socket listener mode) =>
        if closed listener then
          match platform with
          | .unix => some .file
          | .windows => none
        else some (.socket listener mode)
      | entry => entry }

/-! ## The libraries -/

/-- What the daemons use of the libraries for file locks and for local sockets, and what it does to the system. -/
structure Libraries where
  tryLockExclusive (file : LockFile) (s : Os) : Except OsError Unit × Os
  /-- A lock file is closed. -/
  closeLock (file : LockFile) (s : Os) : Os
  createListener (daemon : Nat) (kind : EndpointKind) (s : Os) : Except OsError Listener × Os
  dropListener (listener : Listener) (s : Os) : Os
  /-- The listener that a client reaches. -/
  connect (kind : EndpointKind) (s : Os) : Except OsError Listener

/-- The documented behaviour: a lock is exclusive, is of the open file, and is free when the file is closed; a listener is
only created at a name that is free, and removes the name, whatever is there, when it is dropped; a client reaches the
listener at a name. -/
structure Libraries.Documented (libs : Libraries) (platform : Platform) : Prop where
  lock_free {file : LockFile} {s : Os} (h : s.locks file.path = none) :
    libs.tryLockExclusive file s = (.ok (), { s with locks := Function.update s.locks file.path (some file) })
  lock_contended {file holder : LockFile} {s : Os} (h : s.locks file.path = some holder) (hother : holder ≠ file) :
    libs.tryLockExclusive file s = (.error .contended, s)
  close_locked {file : LockFile} {s : Os} (h : s.locks file.path = some file) :
    libs.closeLock file s = { s with locks := Function.update s.locks file.path none }
  close_unlocked {file : LockFile} {s : Os} (h : s.locks file.path ≠ some file) : libs.closeLock file s = s
  create_taken {kind : EndpointKind} {s : Os} {entry : Entry} (h : s.endpoints kind = some entry) (daemon : Nat) :
    libs.createListener daemon kind s = (.error .addressInUse, s)
  create_free {kind : EndpointKind} {s : Os} (h : s.endpoints kind = none) (daemon : Nat) :
    ∃ listener mode serials, listener.name = kind ∧ listener.daemon = daemon ∧
      libs.createListener daemon kind s = (.ok listener,
        { s with serials, endpoints := Function.update s.endpoints kind (some (.socket listener mode)) })
  drop_unix (hunix : platform = .unix) (listener : Listener) (s : Os) :
    libs.dropListener listener s = { s with endpoints := Function.update s.endpoints listener.name none }
  drop_windows (hwindows : platform = .windows) (listener : Listener) (s : Os) :
    libs.dropListener listener s = s.close .windows (· = listener)
  connect_ok {kind : EndpointKind} {s : Os} {listener : Listener} :
    libs.connect kind s = .ok listener ↔ ∃ mode, s.endpoints kind = some (.socket listener mode)

/-- Libraries that behave so. -/
def systemLibraries (platform : Platform) : Libraries where
  tryLockExclusive file s :=
    match s.locks file.path with
    | none => (.ok (), { s with locks := Function.update s.locks file.path (some file) })
    | some holder => (if holder = file then .ok () else .error .contended, s)
  closeLock file s :=
    if s.locks file.path = some file then { s with locks := Function.update s.locks file.path none } else s
  createListener daemon kind s :=
    match s.endpoints kind with
    | some _ => (.error .addressInUse, s)
    | none =>
      (.ok ⟨kind, daemon, s.serials⟩,
        { s with
          serials := s.serials + 1
          endpoints := Function.update s.endpoints kind (some (.socket ⟨kind, daemon, s.serials⟩ s.socketMode)) })
  dropListener listener s :=
    match platform with
    | .unix => { s with endpoints := Function.update s.endpoints listener.name none }
    | .windows => s.close .windows (· = listener)
  connect kind s :=
    match s.endpoints kind with
    | some (.socket listener _) => .ok listener
    | some _ => .error .refused
    | none => .error .notFound

theorem systemLibraries_documented (platform : Platform) : (systemLibraries platform).Documented platform where
  lock_free h := by simp only [systemLibraries, h]
  lock_contended h hother := by simp only [systemLibraries, h, if_neg hother]
  close_locked h := if_pos h
  close_unlocked h := if_neg h
  create_taken h _ := by simp only [systemLibraries, h]
  create_free h daemon := by
    simp only [systemLibraries, h]
    exact ⟨_, _, _, rfl, rfl, rfl⟩
  drop_unix := by
    rintro rfl _ _
    rfl
  drop_windows := by
    rintro rfl _ _
    rfl
  connect_ok {kind s listener} := by
    unfold systemLibraries
    dsimp only
    cases hentry : s.endpoints kind with
    | none => simp
    | some entry => cases entry <;> simp

/-! ## Calls -/

section Calls

variable (libs : Libraries) (platform : Platform) (euid : Nat → Nat)

/-- A call that does not fail by a fault. -/
def OsCall.run (daemon : Nat) : (call : OsCall) → Os → call.Answer × Os
  | .createDirectory path, s =>
    match s.directories path with
    | some found => (if found.isDir then .ok () else .error .notDirectory, s)
    | none => (.ok (), { s with directories := Function.update s.directories path (some ⟨true, euid daemon, 0o700⟩) })
  | .metadata path, s => (okOr .notFound (s.directories path), s)
  | .openLock path, s => (.ok ⟨path, daemon, s.serials⟩, { s with serials := s.serials + 1 })
  | .tryLockExclusive file, s => libs.tryLockExclusive file s
  | .closeLock file, s => ((), libs.closeLock file s)
  | .pathExists path, s => ((s.endpoints (.unixSocket path)).isSome, s)
  | .removeFile path, s =>
    match s.endpoints (.unixSocket path) with
    | none => (.error .notFound, s)
    | some .directory => (.error .isDirectory, s)
    | some _ => (.ok (), { s with endpoints := Function.update s.endpoints (.unixSocket path) none })
  | .createListener kind, s => libs.createListener daemon kind s
  | .setPermissions path mode, s =>
    match s.endpoints (.unixSocket path) with
    | none => (.error .notFound, s)
    | some (.socket listener _) =>
      (.ok (), { s with endpoints := Function.update s.endpoints (.unixSocket path) (some (.socket listener mode)) })
    | some _ => (.ok (), s)
  | .dropListener listener, s => ((), libs.dropListener listener s)
  | .exchangeFrames _ _, s => ((), s)

/-- A call that fails by a fault has no effect, but what is dropped is closed. -/
def OsCall.fault (code daemon : Nat) : (call : OsCall) → Os → call.Answer × Os
  | .closeLock file, s => OsCall.run libs euid daemon (.closeLock file) s
  | .dropListener listener, s => ((), s.close platform (· = listener))
  | call, s => (call.failed (.other code), s)

/-- A call of a daemon; a killed one has no effect any more. -/
def OsCall.exec (daemon : Nat) (call : OsCall) (s : Os) : call.Answer × Os :=
  if s.killed daemon then (call.failed (.other 0), s)
  else
    match s.faults with
    | [] => call.run libs euid daemon s
    | none :: later => call.run libs euid daemon { s with faults := later }
    | some code :: later => call.fault libs platform euid code daemon { s with faults := later }

/-- A daemon is killed: all that it has open is closed. -/
def Os.kill (s : Os) (daemon : Nat) : Os :=
  { s.close platform (·.daemon = daemon) with
    locks := fun path => (s.locks path).filter (·.daemon ≠ daemon)
    killed := Function.update s.killed daemon true }

end Calls

/-- A call of a daemon, or the end of one. -/
inductive OsOp
  | call (daemon : Nat) (call : OsCall)
  | kill (daemon : Nat)

@[reducible] def OsOp.Answer : OsOp → Type
  | .call _ asked => asked.Answer
  | .kill _ => Unit

@[reducible] def os : Interface := ⟨OsOp, OsOp.Answer, Empty⟩

/-! ## A daemon -/

/-- A bound server, which owns its endpoint. -/
structure LocalServer where
  listener : Listener
  ownership : LockFile
  deriving DecidableEq

section Daemon

variable (platform : Platform) (euid : Nat → Nat) (daemon : Nat)

/-- The program of one call. -/
def perform (call : OsCall) : Program os call.Answer := .act (.call daemon call) .done

def prepareRuntimeDirectory (path : Path) : Program os (Except EndpointError Unit) := do
  match ← perform daemon (.createDirectory path) with
  | .error error => return .error (.os error)
  | .ok () =>
    match platform with
    | .windows => return .ok ()
    | .unix =>
      match ← perform daemon (.metadata path) with
      | .error error => return .error (.os error)
      | .ok found =>
        if found.PrivateTo (euid daemon) then return .ok () else return .error .insecureRuntimeDirectory

def forUser (runtimeDirectory : Path) (userScope : String) : Program os (Except EndpointError EndpointAddress) := do
  if validScope userScope then
    match ← prepareRuntimeDirectory platform euid daemon runtimeDirectory with
    | .error error => return .error error
    | .ok () => return .ok ⟨platform.kindOf runtimeDirectory userScope, lockPathOf runtimeDirectory⟩
  else return .error .invalidUserScope

/-- The stale name of a Unix socket is removed. -/
def removeStale (kind : EndpointKind) : Program os (Except OsError Unit) := do
  match platform, kind with
  | .unix, .unixSocket path =>
    if ← perform daemon (.pathExists path) then perform daemon (.removeFile path) else return .ok ()
  | _, _ => return .ok ()

def createListener (kind : EndpointKind) : Program os (Except EndpointError Listener) := do
  match platform, kind with
  | .unix, .unixSocket _ | .windows, .windowsNamedPipe _ =>
    return (← perform daemon (.createListener kind)).mapError .os
  | _, _ => return .error .unsupportedEndpoint

/-- The socket of a listener is restricted to its user; a listener that is not is dropped. -/
def restrict (kind : EndpointKind) (listener : Listener) : Program os (Except EndpointError Listener) := do
  match platform, kind with
  | .unix, .unixSocket path =>
    match ← perform daemon (.setPermissions path 0o600) with
    | .ok () => return .ok listener
    | .error error =>
      perform daemon (.dropListener listener)
      return .error (.os error)
  | _, _ => return .ok listener

/-- What the owner of the lock does to bind the endpoint. -/
def bindOwned (kind : EndpointKind) : Program os (Except EndpointError Listener) := do
  match ← removeStale platform daemon kind with
  | .error error => return .error (.os error)
  | .ok () =>
    match ← createListener platform daemon kind with
    | .error error => return .error error
    | .ok listener => restrict platform daemon kind listener

/-- Claims and binds an endpoint. An error closes the lock file after all that was opened later. -/
def bind (address : EndpointAddress) : Program os (Except EndpointError LocalServer) := do
  match ← perform daemon (.openLock address.lockPath) with
  | .error error => return .error (.os error)
  | .ok ownership =>
    match ← perform daemon (.tryLockExclusive ownership) with
    | .error error =>
      perform daemon (.closeLock ownership)
      return .error (if error = .contended then .endpointActive else .os error)
    | .ok () =>
      match ← bindOwned platform daemon address.kind with
      | .error error =>
        perform daemon (.closeLock ownership)
        return .error error
      | .ok listener => return .ok ⟨listener, ownership⟩

inductive PeerAuthorization
  | sameUserVerified
  | privateEndpointOnly
  deriving DecidableEq

def authorizePeer (stream : Stream) : Except EndpointError PeerAuthorization := do
  let creds ← stream.peerCreds.mapError .os
  match platform with
  | .unix =>
    let user ← okOr .peerIdentityUnavailable creds.euid
    if user ≠ euid daemon then throw .crossUserRejected
    return .sameUserVerified
  | .windows =>
    let _ ← okOr .peerIdentityUnavailable creds.pid
    return .privateEndpointOnly

/-- Serves one connection that the listener accepts, with the token before and after. -/
def serveExchange (server : LocalServer) (isCancelled : Bool × Bool) (accepted : Except OsError Stream) :
    Program os (Except EndpointError Unit) := do
  if isCancelled.1 then return .error .cancelled
  match accepted with
  | .error error => return .error (.os error)
  | .ok stream =>
    match authorizePeer platform euid daemon stream with
    | .error error => return .error error
    | .ok _ =>
      if isCancelled.2 then return .error .cancelled
      perform daemon (.exchangeFrames server.listener stream)
      return .ok ()

/-- A server is dropped field by field: the listener before the lock. -/
def dropServer (server : LocalServer) : Program os Unit := do
  perform daemon (.dropListener server.listener)
  perform daemon (.closeLock server.ownership)

end Daemon

/-! ## All daemons -/

/-- The daemons, and the system that kills them. -/
inductive Actor
  | daemon (number : Nat)
  | system
  deriving DecidableEq

inductive DaemonCall
  | start (runtimeDirectory : Path) (userScope : String)
  | serve (isCancelled : Bool × Bool) (accepted : Except OsError Stream)
  | stop

/-- How the last call of a daemon ended, and the server that it has. -/
structure DaemonState where
  outcome : Except EndpointError Unit
  server : Option LocalServer

@[reducible] def Actor.Call : Actor → Type
  | .daemon _ => DaemonCall
  | .system => Nat

@[reducible] def Actor.Result : Actor → Type
  | .daemon _ => DaemonState
  | .system => Unit

section System

variable (libs : Libraries) (platform : Platform) (euid : Nat → Nat)

/-- A daemon without a server starts, and one with a server serves and stops. -/
def daemonEntry (daemon : Nat) (call : DaemonCall) (last : DaemonState) : Program os DaemonState := do
  match call, last.server with
  | .start runtimeDirectory userScope, none =>
    match ← forUser platform euid daemon runtimeDirectory userScope with
    | .error error => return ⟨.error error, none⟩
    | .ok address =>
      match ← bind platform daemon address with
      | .error error => return ⟨.error error, none⟩
      | .ok server => return ⟨.ok (), some server⟩
  | .serve isCancelled accepted, some server =>
    return ⟨← serveExchange platform euid daemon server isCancelled accepted, some server⟩
  | .stop, some server =>
    dropServer daemon server
    return ⟨.ok (), none⟩
  | _, _ => return last

def actorEntry : (actor : Actor) → actor.Call → actor.Result → Program os actor.Result
  | .daemon number, call, last => daemonEntry platform euid number call last
  | .system, daemon, _ => .act (.kill daemon) .done

def OsOp.exec : (op : OsOp) → Os → op.Answer × Os
  | .call daemon asked, s => asked.exec libs platform euid daemon s
  | .kill daemon, s => ((), s.kill platform daemon)

@[reducible] def osSystem : System os Os Actor where
  Call := Actor.Call
  Result := Actor.Result
  entry := actorEntry platform euid
  exec := OsOp.exec libs platform euid
  body proc := nomatch proc

/-- All daemons are idle and have no server. -/
def booted (s : Os) : World (osSystem libs platform euid) where
  shared := s
  party
    | .daemon _ => ⟨[], .idle ⟨.ok (), none⟩⟩
    | .system => ⟨[], .idle ()⟩

end System

/-! ## What a daemon has in its hands -/

/-- The lock file and the listener that a daemon has open, and whether it has restricted its socket. -/
inductive Grip
  | empty
  | opened (file : LockFile)
  | locked (file : LockFile)
  | listening (file : LockFile) (listener : Listener) (restricted : Bool)

/-- The open lock file. -/
def Grip.file : Grip → Option LockFile
  | .empty => none
  | .opened file => some file
  | .locked file => some file
  | .listening file _ _ => some file

/-- The lock file that is locked. -/
def Grip.owned : Grip → Option LockFile
  | .locked file => some file
  | .listening file _ _ => some file
  | _ => none

/-- The server that the listener and the lock make. -/
def Grip.server : Grip → Option LocalServer
  | .listening file listener _ => some ⟨listener, file⟩
  | _ => none

/-- The grip of a daemon, and the directory that it has last looked at. -/
structure Hands where
  seen : Option (Path × Metadata)
  grip : Grip

def Hands.empty : Hands := ⟨none, .empty⟩

/-- What an operation of the daemon itself changes in its hands. -/
def Hands.did (hands : Hands) : (op : OsOp) → op.Answer → Hands
  | .call _ (.metadata path), .ok found => { hands with seen := some (path, found) }
  | .call _ (.openLock _), .ok file => { hands with grip := .opened file }
  | .call _ (.tryLockExclusive file), .ok () => { hands with grip := .locked file }
  | .call _ (.closeLock _), _ => { hands with grip := .empty }
  | .call _ (.createListener _), .ok listener =>
    match hands.grip with
    | .locked file => { hands with grip := .listening file listener false }
    | _ => hands
  | .call _ (.setPermissions _ _), .ok () =>
    match hands.grip with
    | .listening file listener _ => { hands with grip := .listening file listener true }
    | _ => hands
  | .call _ (.dropListener _), _ =>
    match hands.grip with
    | .listening file _ _ => { hands with grip := .locked file }
    | _ => hands
  | _, _ => hands

/-- The lock file and the name of one address. -/
def Paired (platform : Platform) (path : Path) (kind : EndpointKind) : Prop :=
  ∃ runtimeDirectory userScope, path = lockPathOf runtimeDirectory ∧ kind = platform.kindOf runtimeDirectory userScope

section Ownership

variable (platform : Platform) (euid : Nat → Nat)

/-- The directory of a lock file was looked at and is private. -/
def Checked (daemon : Nat) (hands : Hands) (path : Path) : Prop :=
  platform = .unix → ∃ runtimeDirectory found, hands.seen = some (runtimeDirectory, found) ∧
    path = lockPathOf runtimeDirectory ∧ found.PrivateTo (euid daemon)

/-- What a daemon promises of its calls: it only locks in a private directory, removes and creates the name of an
endpoint only under its lock, and exchanges frames with its own user only. -/
def Promises (daemon : Nat) (hands : Hands) : OsCall → Prop
  | .openLock path => hands.grip = .empty ∧ Checked platform euid daemon hands path
  | .tryLockExclusive file => hands.grip = .opened file
  | .closeLock file => hands.grip = .opened file ∨ hands.grip = .locked file
  | .removeFile path =>
    platform = .unix ∧ ∃ file, hands.grip = .locked file ∧ Paired platform file.path (.unixSocket path)
  | .createListener kind => ∃ file, hands.grip = .locked file ∧ Paired platform file.path kind
  | .setPermissions path mode =>
    mode = 0o600 ∧ ∃ file listener restricted,
      hands.grip = .listening file listener restricted ∧ listener.name = .unixSocket path
  | .dropListener listener => ∃ file restricted, hands.grip = .listening file listener restricted
  | .exchangeFrames listener stream =>
    (∃ file restricted, hands.grip = .listening file listener restricted) ∧
      ∃ authorization, authorizePeer platform euid daemon stream = .ok authorization
  | _ => True

/-- What a daemon relies on: what it opens is its own, at the name that it asked for. -/
def Answers (daemon : Nat) : (op : OsOp) → op.Answer → Prop
  | .call _ (.openLock path), .ok file => file.path = path ∧ file.daemon = daemon
  | .call _ (.createListener kind), .ok listener => listener.name = kind ∧ listener.daemon = daemon
  | _, _ => True

/-- The server of a daemon between two calls is what it has in its hands. -/
def Between (hands : Hands) (server : Option LocalServer) : Prop :=
  match server with
  | none => hands.grip = .empty
  | some server => ∃ restricted, hands.grip = .listening server.ownership server.listener restricted ∧
      (platform = .unix → restricted = true)

def hands (actor : Actor) : Tracker os actor.Call actor.Result Hands where
  begun hands _ := hands
  did := Hands.did
  returned hands _ := hands

/-- What each actor promises. -/
def ownership : (actor : Actor) → Contract (hands actor)
  | .daemon number =>
    { requires := fun hands op => ∃ asked, op = .call number asked ∧ Promises platform euid number hands asked
      allows := fun _ op answer => Answers number op answer
      ends := fun hands state => Between platform hands state.server
      idle := fun hands state => Between platform hands state.server
      pre := fun proc => nomatch proc
      post := fun proc => nomatch proc }
  | .system =>
    { requires := fun _ op => ∃ number, op = .kill number
      allows := fun _ _ _ => True
      ends := fun _ _ => True
      idle := fun _ _ => True
      pre := fun proc => nomatch proc
      post := fun proc => nomatch proc }

end Ownership

/-! ## Daemons keep their promises -/

section Keeping

variable {platform : Platform} {euid : Nat → Nat} {daemon : Nat} {held : Hands} {file : LockFile} {listener : Listener}
  {kind : EndpointKind}

theorem keeps_perform (asked : OsCall) {Q : Hands → asked.Answer → Prop} :
    Keeps (ownership platform euid (.daemon daemon)) Q held (perform daemon asked) ↔
      Promises platform euid daemon held asked ∧
        ∀ answer, Answers daemon (.call daemon asked) answer → Q (held.did (.call daemon asked) answer) answer := by
  unfold perform
  rw [keeps_act]
  constructor
  · rintro ⟨⟨_, ⟨rfl⟩, hpromises⟩, hnext⟩
    exact ⟨hpromises, hnext⟩
  · rintro ⟨hpromises, hnext⟩
    exact ⟨⟨asked, rfl, hpromises⟩, hnext⟩

/-- An address is of a directory that was looked at. -/
theorem forUser_keeps (runtimeDirectory : Path) (userScope : String) (h : held.grip = .empty) :
    Keeps (ownership platform euid (.daemon daemon))
      (fun later result => later.grip = .empty ∧ ∀ address, result = .ok address →
        Checked platform euid daemon later address.lockPath ∧ Paired platform address.lockPath address.kind)
      held (forUser platform euid daemon runtimeDirectory userScope) := by
  have hpaired : Paired platform (lockPathOf runtimeDirectory) (platform.kindOf runtimeDirectory userScope) :=
    ⟨_, _, rfl, rfl⟩
  unfold forUser
  rw [keeps_ite]
  refine ⟨fun _ => ?_, fun _ => ⟨h, nofun⟩⟩
  rw [keeps_bind]
  unfold prepareRuntimeDirectory
  rw [keeps_bind, keeps_perform]
  refine ⟨trivial, ?_⟩
  rintro (error | ⟨⟩) -
  · exact ⟨h, nofun⟩
  cases platform with
  | windows =>
    refine ⟨h, ?_⟩
    rintro _ ⟨⟩
    exact ⟨nofun, hpaired⟩
  | unix =>
    dsimp only
    rw [keeps_bind, keeps_perform]
    refine ⟨trivial, ?_⟩
    rintro (error | found) -
    · exact ⟨h, nofun⟩
    dsimp only
    rw [keeps_ite]
    refine ⟨fun hprivate => ⟨h, ?_⟩, fun _ => ⟨h, nofun⟩⟩
    rintro _ ⟨⟩
    exact ⟨fun _ => ⟨_, _, rfl, rfl, hprivate⟩, hpaired⟩

/-- A stale name is removed under the lock. -/
theorem removeStale_keeps (hgrip : held.grip = .locked file) (hpaired : Paired platform file.path kind) :
    Keeps (ownership platform euid (.daemon daemon)) (fun later _ => later.grip = .locked file) held
      (removeStale platform daemon kind) := by
  unfold removeStale
  split
  · rw [keeps_bind, keeps_perform]
    refine ⟨trivial, fun found _ => ?_⟩
    rw [keeps_ite]
    refine ⟨fun _ => ?_, fun _ => hgrip⟩
    rw [keeps_perform (.removeFile _)]
    refine ⟨⟨rfl, file, hgrip, hpaired⟩, ?_⟩
    rintro (error | ⟨⟩) - <;> exact hgrip
  · exact hgrip

/-- A listener is created under the lock, or nothing is. -/
theorem createListener_keeps (hgrip : held.grip = .locked file) (hpaired : Paired platform file.path kind) :
    Keeps (ownership platform euid (.daemon daemon))
      (fun later result =>
        match result with
        | .error _ => later.grip = .locked file
        | .ok listener => later.grip = .listening file listener false ∧ listener.name = kind)
      held (createListener platform daemon kind) := by
  have hperform : Keeps (ownership platform euid (.daemon daemon))
      (fun later result =>
        match result.mapError EndpointError.os with
        | .error _ => later.grip = .locked file
        | .ok listener => later.grip = .listening file listener false ∧ listener.name = kind)
      held (perform daemon (.createListener kind)) := by
    rw [keeps_perform]
    refine ⟨⟨file, hgrip, hpaired⟩, ?_⟩
    rintro (error | listener) hanswers
    · exact hgrip
    · refine ⟨?_, hanswers.1⟩
      simp only [Hands.did, hgrip]
  unfold createListener
  split
  · rw [keeps_bind]
    exact hperform
  · rw [keeps_bind]
    exact hperform
  · exact hgrip

/-- The socket is restricted, or dropped. -/
theorem restrict_keeps (hgrip : held.grip = .listening file listener false) (hname : listener.name = kind)
    (hpaired : Paired platform file.path kind) :
    Keeps (ownership platform euid (.daemon daemon))
      (fun later result =>
        match result with
        | .error _ => later.grip = .locked file
        | .ok found => found = listener ∧ ∃ restricted, later.grip = .listening file listener restricted ∧
            (platform = .unix → restricted = true))
      held (restrict platform daemon kind listener) := by
  unfold restrict
  split
  · rw [keeps_bind, keeps_perform]
    refine ⟨⟨rfl, file, listener, false, hgrip, hname⟩, ?_⟩
    rintro (error | ⟨⟩) -
    · dsimp only
      rw [keeps_bind, keeps_perform (.dropListener _)]
      refine ⟨⟨file, false, hgrip⟩, fun _ _ => ?_⟩
      simp only [keeps_pure, Hands.did, hgrip]
    · refine ⟨rfl, true, ?_, fun _ => rfl⟩
      simp only [Hands.did, hgrip]
  · rename_i hother
    refine ⟨rfl, false, hgrip, ?_⟩
    rintro rfl
    obtain ⟨runtimeDirectory, userScope, -, rfl⟩ := hpaired
    exact absurd rfl (hother _ rfl)

theorem bindOwned_keeps (hgrip : held.grip = .locked file) (hpaired : Paired platform file.path kind) :
    Keeps (ownership platform euid (.daemon daemon))
      (fun later result =>
        match result with
        | .error _ => later.grip = .locked file
        | .ok listener => ∃ restricted, later.grip = .listening file listener restricted ∧
            (platform = .unix → restricted = true))
      held (bindOwned platform daemon kind) := by
  unfold bindOwned
  rw [keeps_bind]
  refine (removeStale_keeps hgrip hpaired).imp fun later result hlater => ?_
  cases result with
  | error error => exact hlater
  | ok _ =>
    dsimp only
    rw [keeps_bind]
    refine (createListener_keeps hlater hpaired).imp fun created result hcreated => ?_
    cases result with
    | error error => exact hcreated
    | ok listener =>
      refine (restrict_keeps hcreated.1 hcreated.2 hpaired).imp fun final result hfinal => ?_
      cases result with
      | error error => exact hfinal
      | ok found =>
        obtain ⟨rfl, hfinal⟩ := hfinal
        exact hfinal

/-- A server has its listener and its lock; a failure keeps neither. -/
theorem bind_keeps {address : EndpointAddress} (hgrip : held.grip = .empty)
    (hchecked : Checked platform euid daemon held address.lockPath)
    (hpaired : Paired platform address.lockPath address.kind) :
    Keeps (ownership platform euid (.daemon daemon))
      (fun later result => Between platform later result.toOption) held (bind platform daemon address) := by
  unfold bind
  rw [keeps_bind, keeps_perform]
  refine ⟨⟨hgrip, hchecked⟩, ?_⟩
  rintro (error | ownership) hanswers
  · exact hgrip
  obtain ⟨hpath, -⟩ := hanswers
  dsimp only
  rw [keeps_bind, keeps_perform]
  refine ⟨rfl, ?_⟩
  rintro (error | ⟨⟩) -
  · dsimp only
    rw [keeps_bind, keeps_perform (.closeLock _)]
    exact ⟨.inl rfl, fun _ _ => rfl⟩
  dsimp only
  rw [keeps_bind]
  refine (bindOwned_keeps rfl (hpath ▸ hpaired)).imp fun later result hlater => ?_
  cases result with
  | error error =>
    dsimp only
    rw [keeps_bind, keeps_perform (.closeLock _)]
    exact ⟨.inr hlater, fun _ _ => rfl⟩
  | ok listener => exact hlater

/-- Serving keeps the server. -/
theorem serveExchange_keeps {server : LocalServer} (h : Between platform held (some server))
    (isCancelled : Bool × Bool) (accepted : Except OsError Stream) :
    Keeps (ownership platform euid (.daemon daemon)) (fun later _ => Between platform later (some server)) held
      (serveExchange platform euid daemon server isCancelled accepted) := by
  unfold serveExchange
  rw [keeps_ite]
  refine ⟨fun _ => h, fun _ => ?_⟩
  cases accepted with
  | error error => exact h
  | ok stream =>
    dsimp only
    cases hauthorized : authorizePeer platform euid daemon stream with
    | error error => exact h
    | ok authorization =>
      dsimp only
      rw [keeps_ite]
      refine ⟨fun _ => h, fun _ => ?_⟩
      rw [keeps_bind, keeps_perform (.exchangeFrames _ _)]
      obtain ⟨restricted, hgrip, -⟩ := id h
      exact ⟨⟨⟨_, _, hgrip⟩, _, hauthorized⟩, fun _ _ => h⟩

/-- A stopped daemon has nothing in its hands. -/
theorem dropServer_keeps {server : LocalServer} (h : Between platform held (some server)) :
    Keeps (ownership platform euid (.daemon daemon)) (fun later _ => Between platform later none) held
      (dropServer daemon server) := by
  obtain ⟨restricted, hgrip, -⟩ := h
  unfold dropServer
  rw [keeps_bind, keeps_perform (.dropListener _)]
  refine ⟨⟨_, _, hgrip⟩, fun _ _ => ?_⟩
  rw [keeps_perform (.closeLock _)]
  refine ⟨.inr ?_, fun _ _ => rfl⟩
  simp only [Hands.did, hgrip]

/-- Every call of a daemon keeps its promises. -/
theorem daemonEntry_keeps (call : DaemonCall) (last : DaemonState) (h : Between platform held last.server) :
    Keeps (ownership platform euid (.daemon daemon)) (fun later state => Between platform later state.server) held
      (daemonEntry platform euid daemon call last) := by
  unfold daemonEntry
  split
  · rename_i runtimeDirectory userScope hserver
    rw [hserver] at h
    rw [keeps_bind]
    refine (forUser_keeps runtimeDirectory userScope h).imp fun later result hlater => ?_
    cases result with
    | error error => exact hlater.1
    | ok address =>
      obtain ⟨hchecked, hpaired⟩ := hlater.2 address rfl
      dsimp only
      rw [keeps_bind]
      refine (bind_keeps hlater.1 hchecked hpaired).imp fun final result hfinal => ?_
      cases result <;> exact hfinal
  · rename_i isCancelled accepted server hserver
    rw [hserver] at h
    rw [keeps_bind]
    exact (serveExchange_keeps h isCancelled accepted).imp fun later _ hlater => hlater
  · rename_i server hserver
    rw [hserver] at h
    rw [keeps_bind]
    exact (dropServer_keeps h).imp fun later _ hlater => hlater
  · exact h

end Keeping

/-! ## The invariant -/

section Invariant

variable (platform : Platform) (euid : Nat → Nat)

/-- What a daemon has in its hands is its own, and its lock file is in a private directory. -/
structure Sound (s : Os) (daemon : Nat) (held : Hands) : Prop where
  seen : ∀ directory found, held.seen = some (directory, found) → s.directories directory = some found
  file : ∀ file, held.grip.file = some file → file.daemon = daemon
  guarded : platform = .unix → ∀ file, held.grip.file = some file → ∃ directory found,
    file.path = lockPathOf directory ∧ s.directories directory = some found ∧ found.PrivateTo (euid daemon)
  listener : ∀ file listener restricted, held.grip = .listening file listener restricted →
    listener.daemon = daemon ∧ Paired platform file.path listener.name

/-- The locks and the sockets are those that the living daemons have in their hands. -/
structure Owned (s : Os) (g : Actor → Hands) : Prop where
  sound : ∀ number, Sound platform euid s number (g (.daemon number))
  locked : ∀ number file, s.killed number = false → (g (.daemon number)).grip.owned = some file →
    s.locks file.path = some file
  holder : ∀ path file, s.locks path = some file →
    file.path = path ∧ s.killed file.daemon = false ∧ (g (.daemon file.daemon)).grip.owned = some file
  bound : ∀ number file listener restricted, s.killed number = false →
    (g (.daemon number)).grip = .listening file listener restricted →
    ∃ mode, s.endpoints listener.name = some (.socket listener mode) ∧ (restricted = true → mode = 0o600)
  named : ∀ name listener mode, s.endpoints name = some (.socket listener mode) →
    listener.name = name ∧ s.killed listener.daemon = false ∧
      ∃ file restricted, (g (.daemon listener.daemon)).grip = .listening file listener restricted

end Invariant

section Preservation

variable {libs : Libraries} {platform : Platform} {euid : Nat → Nat} {s t : Os} {g : Actor → Hands} {daemon : Nat}
  {held : Hands}

theorem Grip.owned_file {grip : Grip} {file : LockFile} (h : grip.owned = some file) : grip.file = some file := by
  cases grip with
  | empty => cases h
  | opened other => cases h
  | locked other => exact h
  | listening other listener restricted => exact h

/-- Directories that are there stay as they are. -/
theorem Sound.mono (h : Sound platform euid s daemon held)
    (hdirectories : ∀ path found, s.directories path = some found → t.directories path = some found) :
    Sound platform euid t daemon held where
  seen directory found hseen := hdirectories _ _ (h.seen directory found hseen)
  file := h.file
  guarded hunix file hfile := by
    obtain ⟨directory, found, hpath, hthere, hprivate⟩ := h.guarded hunix file hfile
    exact ⟨directory, found, hpath, hdirectories _ _ hthere, hprivate⟩
  listener := h.listener

/-- What is told of a directory is so. -/
def Tells (s : Os) : (op : OsOp) → op.Answer → Prop
  | .call _ (.metadata path), .ok found => s.directories path = some found
  | _, _ => True

/-- Hands with the same directory and another grip are sound when the grip is. -/
theorem Sound.regrip (h : Sound platform euid s daemon held) {grip : Grip}
    (hfile : ∀ file, grip.file = some file → held.grip.file = some file)
    (hlistener : ∀ file listener restricted, grip = .listening file listener restricted →
      listener.daemon = daemon ∧ Paired platform file.path listener.name) :
    Sound platform euid s daemon { held with grip } where
  seen := h.seen
  file file hgrip := h.file file (hfile file hgrip)
  guarded hunix file hgrip := h.guarded hunix file (hfile file hgrip)
  listener := hlistener

/-- A promised call keeps the hands sound. -/
theorem Sound.did (h : Sound platform euid s daemon held) {asked : OsCall} {answer : asked.Answer}
    (hpromises : Promises platform euid daemon held asked) (hanswers : Answers daemon (.call daemon asked) answer)
    (htells : Tells s (.call daemon asked) answer) :
    Sound platform euid s daemon (held.did (.call daemon asked) answer) := by
  cases asked with
  | metadata path =>
    cases answer with
    | error error => exact h
    | ok found =>
      refine ⟨?_, h.file, h.guarded, h.listener⟩
      rintro _ _ ⟨⟩
      exact htells
  | openLock path =>
    cases answer with
    | error error => exact h
    | ok file =>
      obtain ⟨hpath, hdaemon⟩ := hanswers
      refine ⟨h.seen, ?_, ?_, nofun⟩
      · rintro _ ⟨⟩
        exact hdaemon
      · rintro hunix _ ⟨⟩
        obtain ⟨directory, found, hseen, hlock, hprivate⟩ := hpromises.2 hunix
        exact ⟨directory, found, hpath.trans hlock, h.seen _ _ hseen, hprivate⟩
  | tryLockExclusive file =>
    cases answer with
    | error error => exact h
    | ok _ =>
      have hopened : held.grip = .opened file := hpromises
      refine h.regrip ?_ nofun
      rintro _ ⟨⟩
      rw [hopened]
      rfl
  | closeLock file => exact h.regrip nofun nofun
  | createListener kind =>
    cases answer with
    | error error => exact h
    | ok listener =>
      obtain ⟨file, hgrip, hpaired⟩ := hpromises
      obtain ⟨hname, hdaemon⟩ := hanswers
      simp only [Hands.did, hgrip]
      refine h.regrip ?_ ?_
      · rintro _ ⟨⟩
        rw [hgrip]
        rfl
      · rintro _ _ _ ⟨⟩
        exact ⟨hdaemon, hname ▸ hpaired⟩
  | setPermissions path mode =>
    cases answer with
    | error error => exact h
    | ok _ =>
      obtain ⟨-, file, listener, restricted, hgrip, -⟩ := hpromises
      simp only [Hands.did, hgrip]
      refine h.regrip ?_ ?_
      · rintro _ ⟨⟩
        rw [hgrip]
        rfl
      · rintro _ _ _ ⟨⟩
        exact h.listener _ _ _ hgrip
  | dropListener listener =>
    obtain ⟨file, restricted, hgrip⟩ := hpromises
    simp only [Hands.did, hgrip]
    refine h.regrip ?_ nofun
    rintro _ ⟨⟩
    rw [hgrip]
    rfl
  | _ => exact h

/-! ## One call -/

/-- The hands of a daemon after its own call, and those of the others. -/
theorem update_daemon (g : Actor → Hands) (number : Nat) (held : Hands) :
    Function.update g (.daemon number) held (.daemon number) = held := Function.update_self _ _ _

theorem update_other {other : Nat} (hother : other ≠ daemon) :
    Function.update g (.daemon daemon) held (.daemon other) = g (.daemon other) :=
  Function.update_of_ne (fun h => hother (Actor.daemon.inj h)) _ _

/-- What the hands of one daemon become, and the directories, keeps all hands sound. -/
theorem Owned.sound_update (h : Owned platform euid s g)
    (hdirectories : ∀ path found, s.directories path = some found → t.directories path = some found)
    (hheld : Sound platform euid t daemon held) (number : Nat) :
    Sound platform euid t number (Function.update g (.daemon daemon) held (.daemon number)) := by
  by_cases hnumber : number = daemon
  · subst hnumber
    rw [update_daemon]
    exact hheld
  · rw [update_other hnumber]
    exact (h.sound number).mono hdirectories

theorem Owned.sound_kept (h : Owned platform euid s g) (hdirectories : t.directories = s.directories)
    (hheld : Sound platform euid s daemon held) (number : Nat) :
    Sound platform euid t number (Function.update g (.daemon daemon) held (.daemon number)) := by
  have hsame : ∀ path found, s.directories path = some found → t.directories path = some found := by
    rw [hdirectories]
    exact fun _ _ h => h
  exact h.sound_update hsame (hheld.mono hsame) number

/-- What is locked stays locked by a call that changes no lock, neither there nor in living hands. -/
theorem Owned.locked_kept (h : Owned platform euid s g) (hlocks : t.locks = s.locks) (hkilled : t.killed = s.killed)
    (howned : s.killed daemon = false → held.grip.owned = (g (.daemon daemon)).grip.owned) (number : Nat)
    (file : LockFile) (halive : t.killed number = false)
    (hgrip : (Function.update g (.daemon daemon) held (.daemon number)).grip.owned = some file) :
    t.locks file.path = some file := by
  rw [hkilled] at halive
  rw [hlocks]
  by_cases hnumber : number = daemon
  · subst hnumber
    rw [update_daemon, howned halive] at hgrip
    exact h.locked _ _ halive hgrip
  · rw [update_other hnumber] at hgrip
    exact h.locked _ _ halive hgrip

theorem Owned.holder_kept (h : Owned platform euid s g) (hlocks : t.locks = s.locks) (hkilled : t.killed = s.killed)
    (howned : s.killed daemon = false → held.grip.owned = (g (.daemon daemon)).grip.owned) (path : Path)
    (file : LockFile) (hlock : t.locks path = some file) :
    file.path = path ∧ t.killed file.daemon = false ∧
      (Function.update g (.daemon daemon) held (.daemon file.daemon)).grip.owned = some file := by
  rw [hlocks] at hlock
  rw [hkilled]
  obtain ⟨hpath, halive, hgrip⟩ := h.holder path file hlock
  refine ⟨hpath, halive, ?_⟩
  by_cases hnumber : file.daemon = daemon
  · rw [hnumber] at halive hgrip ⊢
    rw [update_daemon, howned halive]
    exact hgrip
  · rw [update_other hnumber]
    exact hgrip

/-- What is listened on stays so by a call that changes no endpoint, neither there nor in living hands. -/
theorem Owned.bound_kept (h : Owned platform euid s g) (hendpoints : t.endpoints = s.endpoints)
    (hkilled : t.killed = s.killed)
    (hlistening : s.killed daemon = false → ∀ file listener restricted,
      held.grip = .listening file listener restricted ↔ (g (.daemon daemon)).grip = .listening file listener restricted)
    (number : Nat) (file : LockFile) (listener : Listener) (restricted : Bool) (halive : t.killed number = false)
    (hgrip : (Function.update g (.daemon daemon) held (.daemon number)).grip = .listening file listener restricted) :
    ∃ mode, t.endpoints listener.name = some (.socket listener mode) ∧ (restricted = true → mode = 0o600) := by
  rw [hkilled] at halive
  rw [hendpoints]
  by_cases hnumber : number = daemon
  · subst hnumber
    rw [update_daemon, hlistening halive] at hgrip
    exact h.bound _ _ _ _ halive hgrip
  · rw [update_other hnumber] at hgrip
    exact h.bound _ _ _ _ halive hgrip

theorem Owned.named_kept (h : Owned platform euid s g) (hendpoints : t.endpoints = s.endpoints)
    (hkilled : t.killed = s.killed)
    (hlistening : s.killed daemon = false → ∀ file listener restricted,
      held.grip = .listening file listener restricted ↔ (g (.daemon daemon)).grip = .listening file listener restricted)
    (name : EndpointKind) (listener : Listener) (mode : Nat)
    (hentry : t.endpoints name = some (.socket listener mode)) :
    listener.name = name ∧ t.killed listener.daemon = false ∧ ∃ file restricted,
      (Function.update g (.daemon daemon) held (.daemon listener.daemon)).grip =
        .listening file listener restricted := by
  rw [hendpoints] at hentry
  rw [hkilled]
  obtain ⟨hname, halive, file, restricted, hgrip⟩ := h.named name listener mode hentry
  refine ⟨hname, halive, file, restricted, ?_⟩
  by_cases hnumber : listener.daemon = daemon
  · rw [hnumber] at halive hgrip ⊢
    rw [update_daemon, hlistening halive]
    exact hgrip
  · rw [update_other hnumber]
    exact hgrip

/-- A call that changes no lock and no endpoint, and no such thing in living hands. -/
theorem Owned.quiet (h : Owned platform euid s g) (hlocks : t.locks = s.locks) (hendpoints : t.endpoints = s.endpoints)
    (hkilled : t.killed = s.killed)
    (hdirectories : ∀ path found, s.directories path = some found → t.directories path = some found)
    (hheld : Sound platform euid t daemon held)
    (howned : s.killed daemon = false → held.grip.owned = (g (.daemon daemon)).grip.owned)
    (hlistening : s.killed daemon = false → ∀ file listener restricted,
      held.grip = .listening file listener restricted ↔
        (g (.daemon daemon)).grip = .listening file listener restricted) :
    Owned platform euid t (Function.update g (.daemon daemon) held) where
  sound := h.sound_update hdirectories hheld
  locked := h.locked_kept hlocks hkilled howned
  holder := h.holder_kept hlocks hkilled howned
  bound := h.bound_kept hendpoints hkilled hlistening
  named := h.named_kept hendpoints hkilled hlistening

/-- The name of an endpoint is removed, or no longer listened on, by the one daemon that may have listened on it. -/
theorem Owned.clear (h : Owned platform euid s g) (kind : EndpointKind) (hlocks : t.locks = s.locks)
    (hkilled : t.killed = s.killed) (hdirectories : t.directories = s.directories)
    (hcleared : ∀ listener mode, t.endpoints kind ≠ some (.socket listener mode))
    (hkept : ∀ name, name ≠ kind → t.endpoints name = s.endpoints name)
    (hheld : Sound platform euid s daemon held) (howned : held.grip.owned = (g (.daemon daemon)).grip.owned)
    (hnot : ∀ file listener restricted, held.grip ≠ .listening file listener restricted)
    (hself : ∀ file listener restricted, (g (.daemon daemon)).grip = .listening file listener restricted →
      listener.name = kind)
    (hothers : ∀ other file listener restricted, other ≠ daemon → s.killed other = false →
      (g (.daemon other)).grip = .listening file listener restricted → listener.name ≠ kind) :
    Owned platform euid t (Function.update g (.daemon daemon) held) where
  sound := h.sound_kept hdirectories hheld
  locked := h.locked_kept hlocks hkilled fun _ => howned
  holder := h.holder_kept hlocks hkilled fun _ => howned
  bound number file listener restricted halive hgrip := by
    rw [hkilled] at halive
    by_cases hnumber : number = daemon
    · subst hnumber
      rw [update_daemon] at hgrip
      exact absurd hgrip (hnot _ _ _)
    · rw [update_other hnumber] at hgrip
      rw [hkept _ (hothers _ _ _ _ hnumber halive hgrip)]
      exact h.bound _ _ _ _ halive hgrip
  named name listener mode hentry := by
    by_cases hname : name = kind
    · subst hname
      exact absurd hentry (hcleared _ _)
    rw [hkept name hname] at hentry
    obtain ⟨hlistener, halive, file, restricted, hgrip⟩ := h.named name listener mode hentry
    refine ⟨hlistener, by rw [hkilled]; exact halive, file, restricted, ?_⟩
    by_cases hnumber : listener.daemon = daemon
    · rw [hnumber] at hgrip
      exact absurd (hlistener.symm.trans (hself _ _ _ hgrip)) hname
    · rw [update_other hnumber]
      exact hgrip

/-- A listener of a living daemon is at its name, and no other living daemon listens there. -/
theorem Owned.name_unique (h : Owned platform euid s g) {number other : Nat} {file file' : LockFile}
    {listener listener' : Listener} {restricted restricted' : Bool} (halive : s.killed number = false)
    (halive' : s.killed other = false) (hgrip : (g (.daemon number)).grip = .listening file listener restricted)
    (hgrip' : (g (.daemon other)).grip = .listening file' listener' restricted')
    (hname : listener'.name = listener.name) : other = number := by
  obtain ⟨mode, hentry, -⟩ := h.bound _ _ _ _ halive hgrip
  obtain ⟨mode', hentry', -⟩ := h.bound _ _ _ _ halive' hgrip'
  rw [hname, hentry] at hentry'
  cases hentry'
  have hnumber := ((h.sound number).listener _ _ _ hgrip).1
  exact ((h.sound other).listener _ _ _ hgrip').1.symm.trans hnumber

/-- No two living daemons have the same lock. -/
theorem Owned.lock_unique (h : Owned platform euid s g) {number other : Nat} {file file' : LockFile}
    (halive : s.killed number = false) (halive' : s.killed other = false)
    (hgrip : (g (.daemon number)).grip.owned = some file) (hgrip' : (g (.daemon other)).grip.owned = some file')
    (hpath : file'.path = file.path) : other = number := by
  have hlock := h.locked _ _ halive hgrip
  have hlock' := h.locked _ _ halive' hgrip'
  rw [hpath, hlock] at hlock'
  cases hlock'
  exact ((h.sound other).file _ (Grip.owned_file hgrip')).symm.trans ((h.sound number).file _ (Grip.owned_file hgrip))

/-- On Unix the name of an endpoint tells its lock. -/
theorem Paired.path_unique {path path' : Path} {kind : EndpointKind} (h : Paired .unix path kind)
    (h' : Paired .unix path' kind) : path' = path := by
  obtain ⟨directory, _, rfl, rfl⟩ := h
  obtain ⟨directory', _, rfl, hkind⟩ := h'
  obtain rfl := List.append_cancel_right (EndpointKind.unixSocket.inj hkind)
  rfl

theorem Owned.tryLock (h : Owned platform euid s g) {file : LockFile} (hgrip : (g (.daemon daemon)).grip = .opened file)
    (hkilled : s.killed daemon = false) (hfree : s.locks file.path = none)
    (hheld : Sound platform euid s daemon held) (hnow : held.grip = .locked file) :
    Owned platform euid { s with locks := Function.update s.locks file.path (some file) }
      (Function.update g (.daemon daemon) held) where
  sound := h.sound_kept rfl hheld
  locked number other halive howned := by
    by_cases hnumber : number = daemon
    · subst hnumber
      rw [update_daemon, hnow] at howned
      cases howned
      exact Function.update_self _ _ _
    · rw [update_other hnumber] at howned
      have hlock := h.locked number other halive howned
      have hpath : other.path ≠ file.path := by
        intro hpath
        rw [hpath, hfree] at hlock
        cases hlock
      exact (Function.update_of_ne hpath _ _).trans hlock
  holder path other hlock := by
    have hdaemon : file.daemon = daemon := (h.sound daemon).file file (by rw [hgrip]; rfl)
    by_cases hpath : path = file.path
    · subst hpath
      have hother : Function.update s.locks file.path (some file) file.path = some other := hlock
      rw [Function.update_self] at hother
      cases hother
      rw [hdaemon, update_daemon, hnow]
      exact ⟨rfl, hkilled, rfl⟩
    · obtain ⟨hother, halive, howned⟩ := h.holder path other ((Function.update_of_ne hpath _ _).symm.trans hlock)
      refine ⟨hother, halive, ?_⟩
      by_cases hnumber : other.daemon = daemon
      · rw [hnumber, hgrip] at howned
        cases howned
      · rw [update_other hnumber]
        exact howned
  bound := h.bound_kept rfl rfl fun _ _ _ _ => by
    rw [hnow, hgrip]
    exact ⟨nofun, nofun⟩
  named := h.named_kept rfl rfl fun _ _ _ _ => by
    rw [hnow, hgrip]
    exact ⟨nofun, nofun⟩

theorem Owned.unlock (h : Owned platform euid s g) {file : LockFile} (hgrip : (g (.daemon daemon)).grip = .locked file)
    (hkilled : s.killed daemon = false) (hheld : Sound platform euid s daemon held) (hnow : held.grip = .empty) :
    Owned platform euid { s with locks := Function.update s.locks file.path none }
      (Function.update g (.daemon daemon) held) where
  sound := h.sound_kept rfl hheld
  locked number other halive howned := by
    by_cases hnumber : number = daemon
    · subst hnumber
      rw [update_daemon, hnow] at howned
      cases howned
    · rw [update_other hnumber] at howned
      have hpath : other.path ≠ file.path := fun hpath =>
        hnumber (h.lock_unique hkilled halive (by rw [hgrip]; rfl) howned hpath)
      exact (Function.update_of_ne hpath _ _).trans (h.locked _ _ halive howned)
  holder path other hlock := by
    by_cases hpath : path = file.path
    · subst hpath
      cases (Function.update_self _ _ _).symm.trans hlock
    · obtain ⟨hother, halive, howned⟩ := h.holder path other ((Function.update_of_ne hpath _ _).symm.trans hlock)
      refine ⟨hother, halive, ?_⟩
      by_cases hnumber : other.daemon = daemon
      · rw [hnumber, hgrip] at howned
        cases howned
        exact absurd hother.symm hpath
      · rw [update_other hnumber]
        exact howned
  bound := h.bound_kept rfl rfl fun _ _ _ _ => by
    rw [hnow, hgrip]
    exact ⟨nofun, nofun⟩
  named := h.named_kept rfl rfl fun _ _ _ _ => by
    rw [hnow, hgrip]
    exact ⟨nofun, nofun⟩

/-- A new listener at a free name, or new permissions of a listener at its own name. -/
theorem Owned.listen (h : Owned platform euid s g) {file : LockFile} {listener : Listener} {restricted : Bool}
    {mode : Nat}
    (howned : (g (.daemon daemon)).grip.owned = some file) (hkilled : s.killed daemon = false)
    (hown : listener.daemon = daemon)
    (hfree : ∀ other found, s.endpoints listener.name = some (.socket other found) → other.daemon = daemon)
    (hself : ∀ file' listener' restricted', (g (.daemon daemon)).grip = .listening file' listener' restricted' →
      listener'.name = listener.name)
    (hmode : restricted = true → mode = 0o600) (hlocks : t.locks = s.locks) (hkilled' : t.killed = s.killed)
    (hdirectories : t.directories = s.directories)
    (hentries : t.endpoints = Function.update s.endpoints listener.name (some (.socket listener mode)))
    (hheld : Sound platform euid s daemon held) (hnow : held.grip = .listening file listener restricted) :
    Owned platform euid t (Function.update g (.daemon daemon) held) where
  sound := h.sound_kept hdirectories hheld
  locked := h.locked_kept hlocks hkilled' fun _ => by
    rw [hnow, howned]
    rfl
  holder := h.holder_kept hlocks hkilled' fun _ => by
    rw [hnow, howned]
    rfl
  bound number other found restricted' halive hlistening := by
    rw [hkilled'] at halive
    rw [hentries]
    by_cases hnumber : number = daemon
    · subst hnumber
      rw [update_daemon, hnow] at hlistening
      cases hlistening
      exact ⟨mode, Function.update_self _ _ _, hmode⟩
    · rw [update_other hnumber] at hlistening
      obtain ⟨mode', hentry, hmode'⟩ := h.bound _ _ _ _ halive hlistening
      have hname : found.name ≠ listener.name := by
        intro hname
        rw [hname] at hentry
        exact hnumber (((h.sound number).listener _ _ _ hlistening).1.symm.trans (hfree _ _ hentry))
      exact ⟨mode', (Function.update_of_ne hname _ _).trans hentry, hmode'⟩
  named name found mode' hentry := by
    rw [hentries] at hentry
    rw [hkilled']
    by_cases hname : name = listener.name
    · subst hname
      cases (Function.update_self _ _ _).symm.trans hentry
      rw [hown, update_daemon, hnow]
      exact ⟨rfl, hkilled, file, restricted, rfl⟩
    · obtain ⟨hfound, halive, other, restricted', hlistening⟩ :=
        h.named name found mode' ((Function.update_of_ne hname _ _).symm.trans hentry)
      refine ⟨hfound, halive, other, restricted', ?_⟩
      by_cases hnumber : found.daemon = daemon
      · rw [hnumber] at hlistening
        exact absurd (hfound.symm.trans (hself _ _ _ hlistening)) hname
      · rw [update_other hnumber]
        exact hlistening

theorem Owned.kill (h : Owned platform euid s g) (daemon : Nat) : Owned platform euid (s.kill platform daemon) g where
  sound number := (h.sound number).mono fun _ _ h => h
  locked number file halive howned := by
    have hnumber : number ≠ daemon := by
      rintro rfl
      cases (Function.update_self _ _ _).symm.trans halive
    have hfile := (h.sound number).file file (Grip.owned_file howned)
    have hlock := h.locked number file ((Function.update_of_ne hnumber _ _).symm.trans halive) howned
    show (s.locks file.path).filter _ = some file
    rw [hlock, Option.filter_some, if_pos (by simpa [hfile] using hnumber)]
  holder path file hlock := by
    obtain ⟨hlock, hother⟩ := Option.filter_eq_some_iff.mp hlock
    obtain ⟨hpath, halive, howned⟩ := h.holder path file hlock
    exact ⟨hpath, (Function.update_of_ne (by simpa using hother) _ _).trans halive, howned⟩
  bound number file listener restricted halive hgrip := by
    have hnumber : number ≠ daemon := by
      rintro rfl
      cases (Function.update_self _ _ _).symm.trans halive
    obtain ⟨mode, hentry, hmode⟩ :=
      h.bound number file listener restricted ((Function.update_of_ne hnumber _ _).symm.trans halive) hgrip
    have hlistener : listener.daemon ≠ daemon := by
      rw [((h.sound number).listener _ _ _ hgrip).1]
      exact hnumber
    refine ⟨mode, ?_, hmode⟩
    simp only [Os.kill, Os.close, hentry, hlistener, decide_false, Bool.false_eq_true, if_false]
  named name listener mode hentry := by
    simp only [Os.kill, Os.close] at hentry
    split at hentry
    · rename_i found mode' hfound
      split at hentry
      · split at hentry <;> cases hentry
      · rename_i hother
        cases hentry
        obtain ⟨hname, halive, hgrip⟩ := h.named name listener mode hfound
        exact ⟨hname, (Function.update_of_ne (by simpa using hother) _ _).trans halive, hgrip⟩
    · rename_i hnone
      exact absurd hentry (hnone listener mode)

/-- A call that changes nothing of what the daemons have. -/
theorem Owned.frame (h : Owned platform euid s g) (hlocks : t.locks = s.locks) (hendpoints : t.endpoints = s.endpoints)
    (hkilled : t.killed = s.killed)
    (hdirectories : ∀ path found, s.directories path = some found → t.directories path = some found) :
    Owned platform euid t g := by
  have hquiet := h.quiet hlocks hendpoints hkilled hdirectories ((h.sound 0).mono hdirectories) (fun _ => rfl)
    fun _ _ _ _ => Iff.rfl
  rwa [Function.update_eq_self] at hquiet

/-- The listener of a living daemon is closed, with or without its name. -/
theorem Owned.drop (h : Owned platform euid s g) {listener : Listener} (halive : s.killed daemon = false)
    (hpromises : Promises platform euid daemon (g (.daemon daemon)) (.dropListener listener))
    (hlocks : t.locks = s.locks) (hkilled : t.killed = s.killed) (hdirectories : t.directories = s.directories)
    (hcleared : ∀ found mode, t.endpoints listener.name ≠ some (.socket found mode))
    (hkept : ∀ name, name ≠ listener.name → t.endpoints name = s.endpoints name) :
    Owned platform euid t
      (Function.update g (.daemon daemon) ((g (.daemon daemon)).did (.call daemon (.dropListener listener)) ())) := by
  have hheld : Sound platform euid s daemon ((g (.daemon daemon)).did (.call daemon (.dropListener listener)) ()) :=
    (h.sound daemon).did hpromises trivial trivial
  obtain ⟨file, restricted, hgrip⟩ := hpromises
  have hnow : ((g (.daemon daemon)).did (.call daemon (.dropListener listener)) ()).grip = .locked file := by
    simp only [Hands.did, hgrip]
  refine h.clear listener.name hlocks hkilled hdirectories hcleared hkept hheld ?_ ?_ ?_ ?_
  · rw [hnow, hgrip]
    rfl
  · rw [hnow]
    nofun
  · intro file' listener' restricted' hgrip'
    rw [hgrip] at hgrip'
    cases hgrip'
    rfl
  · intro other file' listener' restricted' hother halive' hgrip' hname
    exact hother (h.name_unique halive halive' hgrip hgrip' hname)

/-- Closing the listener of a living daemon clears its name and no other. -/
theorem Owned.close_listener (h : Owned platform euid s g) {listener : Listener} (halive : s.killed daemon = false)
    (hpromises : Promises platform euid daemon (g (.daemon daemon)) (.dropListener listener)) :
    (∀ found mode, (s.close platform (· = listener)).endpoints listener.name ≠ some (.socket found mode)) ∧
      ∀ name, name ≠ listener.name → (s.close platform (· = listener)).endpoints name = s.endpoints name := by
  constructor
  · intro found mode
    obtain ⟨file, restricted, hgrip⟩ := hpromises
    obtain ⟨mode', hentry, -⟩ := h.bound _ _ _ _ halive hgrip
    simp only [Os.close, hentry, decide_true, if_true]
    cases platform <;> nofun
  · intro name hname
    simp only [Os.close]
    split
    · rename_i found mode hfound
      rw [if_neg, hfound]
      intro heq
      have hsame : found = listener := by simpa using heq
      exact hname ((h.named _ _ _ hfound).1.symm.trans (congrArg Listener.name hsame))
    · rfl

/-- What the invariant is after a call of a daemon. -/
def Owned.After (platform : Platform) (euid : Nat → Nat) (g : Actor → Hands) (daemon : Nat) (asked : OsCall)
    (result : asked.Answer × Os) : Prop :=
  Answers daemon (.call daemon asked) result.1 ∧
    Owned platform euid result.2
      (Function.update g (.daemon daemon) ((g (.daemon daemon)).did (.call daemon asked) result.1))

/-- A failed call has no effect. -/
theorem Owned.failed (h : Owned platform euid s g) (error : OsError) {asked : OsCall}
    (hclose : ∀ file, asked ≠ .closeLock file) (hdrop : ∀ listener, asked ≠ .dropListener listener) :
    Owned.After platform euid g daemon asked (asked.failed error, s) := by
  have hsame : Owned platform euid s (Function.update g (.daemon daemon) (g (.daemon daemon))) := by
    rw [Function.update_eq_self]
    exact h
  cases asked with
  | closeLock file => exact absurd rfl (hclose file)
  | dropListener listener => exact absurd rfl (hdrop listener)
  | _ => exact ⟨trivial, hsame⟩

theorem Owned.run_closeLock (hlibs : libs.Documented platform) (h : Owned platform euid s g)
    (halive : s.killed daemon = false) {file : LockFile}
    (hpromises : Promises platform euid daemon (g (.daemon daemon)) (.closeLock file)) :
    Owned.After platform euid g daemon (.closeLock file) (OsCall.run libs euid daemon (.closeLock file) s) := by
  refine ⟨trivial, ?_⟩
  have hheld : Sound platform euid s daemon ((g (.daemon daemon)).did (.call daemon (.closeLock file)) ()) :=
    (h.sound daemon).did hpromises trivial trivial
  rcases hpromises with hgrip | hgrip
  · have hother : s.locks file.path ≠ some file := by
      intro hlock
      obtain ⟨-, -, howned⟩ := h.holder _ _ hlock
      rw [(h.sound daemon).file file (by rw [hgrip]; rfl), hgrip] at howned
      cases howned
    simp only [OsCall.run, hlibs.close_unlocked hother]
    refine h.quiet rfl rfl rfl (fun _ _ h => h) hheld (fun _ => ?_) fun _ _ _ _ => ?_
    · rw [hgrip]
      rfl
    · rw [hgrip]
      exact ⟨nofun, nofun⟩
  · have hlock : s.locks file.path = some file := h.locked _ _ halive (by rw [hgrip]; rfl)
    simp only [OsCall.run, hlibs.close_locked hlock]
    exact h.unlock hgrip halive hheld rfl

theorem Owned.run_createListener (hlibs : libs.Documented platform) (h : Owned platform euid s g)
    (halive : s.killed daemon = false) {kind : EndpointKind}
    (hpromises : Promises platform euid daemon (g (.daemon daemon)) (.createListener kind)) :
    Owned.After platform euid g daemon (.createListener kind)
      (OsCall.run libs euid daemon (.createListener kind) s) := by
  cases hentry : s.endpoints kind with
  | some entry =>
    simp only [OsCall.run, hlibs.create_taken hentry]
    exact h.failed .addressInUse nofun nofun
  | none =>
    obtain ⟨listener, mode, serials, rfl, hdaemon, hcreated⟩ := hlibs.create_free hentry daemon
    simp only [OsCall.run, hcreated]
    refine ⟨⟨rfl, hdaemon⟩, ?_⟩
    obtain ⟨file, hgrip, hpaired⟩ := id hpromises
    have hnow : ((g (.daemon daemon)).did (.call daemon (.createListener listener.name)) (.ok listener)).grip =
        .listening file listener false := by
      simp only [Hands.did, hgrip]
    have hheld : Sound platform euid s daemon
        ((g (.daemon daemon)).did (.call daemon (.createListener listener.name)) (.ok listener)) :=
      (h.sound daemon).did hpromises ⟨rfl, hdaemon⟩ trivial
    refine h.listen ?_ halive hdaemon ?_ ?_ ?_ rfl rfl rfl rfl hheld hnow
    · rw [hgrip]
      rfl
    · intro other found hfound
      rw [hentry] at hfound
      cases hfound
    · rw [hgrip]
      nofun
    · nofun

theorem Owned.run_setPermissions (h : Owned platform euid s g) (halive : s.killed daemon = false) {path : Path}
    {mode : Nat}
    (hpromises : Promises platform euid daemon (g (.daemon daemon)) (.setPermissions path mode)) :
    Owned.After platform euid g daemon (.setPermissions path mode)
      (OsCall.run libs euid daemon (.setPermissions path mode) s) := by
  obtain ⟨rfl, file, listener, restricted, hgrip, hname⟩ := id hpromises
  obtain ⟨mode, hentry, -⟩ := h.bound _ _ _ _ halive hgrip
  rw [hname] at hentry
  simp only [OsCall.run, hentry]
  refine ⟨trivial, ?_⟩
  have hnow : ((g (.daemon daemon)).did (.call daemon (.setPermissions path 0o600)) (.ok ())).grip =
      .listening file listener true := by
    simp only [Hands.did, hgrip]
  have hheld : Sound platform euid s daemon
      ((g (.daemon daemon)).did (.call daemon (.setPermissions path 0o600)) (.ok ())) :=
    (h.sound daemon).did hpromises trivial trivial
  have hdaemon : listener.daemon = daemon := ((h.sound daemon).listener _ _ _ hgrip).1
  refine h.listen ?_ halive hdaemon ?_ ?_ (fun _ => rfl) rfl rfl rfl ?_ hheld hnow
  · rw [hgrip]
    rfl
  · intro other found hfound
    rw [hname, hentry] at hfound
    cases hfound
    exact hdaemon
  · intro file' listener' restricted' hgrip'
    rw [hgrip] at hgrip'
    cases hgrip'
    rfl
  · rw [hname]

theorem Owned.run_removeFile (h : Owned platform euid s g) (halive : s.killed daemon = false) {path : Path}
    (hpromises : Promises platform euid daemon (g (.daemon daemon)) (.removeFile path)) :
    Owned.After platform euid g daemon (.removeFile path) (OsCall.run libs euid daemon (.removeFile path) s) := by
  obtain ⟨rfl, file, hgrip, hpaired⟩ := hpromises
  have hremoved : Owned .unix euid { s with endpoints := Function.update s.endpoints (.unixSocket path) none }
      (Function.update g (.daemon daemon) (g (.daemon daemon))) := by
    refine h.clear (.unixSocket path) rfl rfl rfl ?_ (fun name hname => Function.update_of_ne hname _ _)
      (h.sound daemon) rfl ?_ ?_ ?_
    · intro listener mode hentry
      cases (Function.update_self _ _ _).symm.trans hentry
    · rw [hgrip]
      nofun
    · rw [hgrip]
      nofun
    · intro other file' listener restricted hother halive' hgrip' hname
      -- the name tells the lock, which the daemon itself has
      have hpaired' := ((h.sound other).listener _ _ _ hgrip').2
      rw [hname] at hpaired'
      exact hother (h.lock_unique halive halive' (by rw [hgrip]; rfl) (by rw [hgrip']; rfl)
        (hpaired.path_unique hpaired'))
  cases hentry : s.endpoints (.unixSocket path) with
  | none =>
    simp only [OsCall.run, hentry]
    exact h.failed .notFound nofun nofun
  | some entry =>
    cases entry with
    | directory =>
      simp only [OsCall.run, hentry]
      exact h.failed .isDirectory nofun nofun
    | _ =>
      simp only [OsCall.run, hentry]
      exact ⟨trivial, hremoved⟩

theorem Owned.run_tryLock (hlibs : libs.Documented platform) (h : Owned platform euid s g)
    (halive : s.killed daemon = false) {file : LockFile}
    (hpromises : Promises platform euid daemon (g (.daemon daemon)) (.tryLockExclusive file)) :
    Owned.After platform euid g daemon (.tryLockExclusive file)
      (OsCall.run libs euid daemon (.tryLockExclusive file) s) := by
  have hgrip : (g (.daemon daemon)).grip = .opened file := hpromises
  cases hlock : s.locks file.path with
  | none =>
    simp only [OsCall.run, hlibs.lock_free hlock]
    have hheld : Sound platform euid s daemon
        ((g (.daemon daemon)).did (.call daemon (.tryLockExclusive file)) (.ok ())) :=
      (h.sound daemon).did hpromises trivial trivial
    exact ⟨trivial, h.tryLock hgrip halive hlock hheld rfl⟩
  | some holder =>
    have hother : holder ≠ file := by
      rintro rfl
      obtain ⟨-, -, howned⟩ := h.holder _ _ hlock
      rw [(h.sound daemon).file holder (by rw [hgrip]; rfl), hgrip] at howned
      cases howned
    simp only [OsCall.run, hlibs.lock_contended hlock hother]
    exact h.failed .contended nofun nofun

theorem Owned.run_openLock (h : Owned platform euid s g) {path : Path}
    (hpromises : Promises platform euid daemon (g (.daemon daemon)) (.openLock path)) :
    Owned.After platform euid g daemon (.openLock path) (OsCall.run libs euid daemon (.openLock path) s) := by
  obtain ⟨hempty, -⟩ := id hpromises
  have hheld : Sound platform euid s daemon
      ((g (.daemon daemon)).did (.call daemon (.openLock path)) (.ok ⟨path, daemon, s.serials⟩)) :=
    (h.sound daemon).did hpromises ⟨rfl, rfl⟩ trivial
  refine ⟨⟨rfl, rfl⟩, h.quiet rfl rfl rfl (fun _ _ h => h) (hheld.mono fun _ _ h => h) (fun _ => ?_) fun _ _ _ _ => ?_⟩
  · rw [hempty]
    rfl
  · rw [hempty]
    exact ⟨nofun, nofun⟩

/-- A promised call of a living daemon that does not fail by a fault keeps the invariant. -/
theorem Owned.run (hlibs : libs.Documented platform) (h : Owned platform euid s g) (halive : s.killed daemon = false)
    {asked : OsCall}
    (hpromises : Promises platform euid daemon (g (.daemon daemon)) asked) :
    Owned.After platform euid g daemon asked (asked.run libs euid daemon s) := by
  have hsame : Owned platform euid s (Function.update g (.daemon daemon) (g (.daemon daemon))) := by
    rw [Function.update_eq_self]
    exact h
  cases asked with
  | createDirectory path =>
    cases hfound : s.directories path with
    | some found =>
      simp only [OsCall.run, hfound]
      exact ⟨trivial, hsame⟩
    | none =>
      simp only [OsCall.run, hfound]
      refine ⟨trivial, hsame.frame rfl rfl rfl fun other found hother => ?_⟩
      refine (Function.update_of_ne ?_ _ _).trans hother
      rintro rfl
      rw [hfound] at hother
      cases hother
  | metadata path =>
    refine ⟨trivial, ?_⟩
    refine h.quiet rfl rfl rfl (fun _ _ h => h) ((h.sound daemon).did hpromises trivial ?_) (fun _ => ?_)
      fun _ _ _ _ => ?_
    · simp only [OsCall.run]
      cases hfound : s.directories path with
      | none => trivial
      | some found => exact hfound
    · simp only [OsCall.run]
      cases s.directories path <;> rfl
    · simp only [OsCall.run]
      cases s.directories path <;> exact Iff.rfl
  | openLock path => exact h.run_openLock hpromises
  | tryLockExclusive file => exact h.run_tryLock hlibs halive hpromises
  | closeLock file => exact h.run_closeLock hlibs halive hpromises
  | pathExists path => exact ⟨trivial, hsame⟩
  | removeFile path => exact h.run_removeFile halive hpromises
  | createListener kind => exact h.run_createListener hlibs halive hpromises
  | setPermissions path mode => exact h.run_setPermissions halive hpromises
  | exchangeFrames listener stream => exact ⟨trivial, hsame⟩
  | dropListener listener =>
    refine ⟨trivial, ?_⟩
    cases platform with
    | unix =>
      simp only [OsCall.run, hlibs.drop_unix rfl]
      refine h.drop halive hpromises rfl rfl rfl ?_ fun name hname => Function.update_of_ne hname _ _
      intro found mode hentry
      cases (Function.update_self _ _ _).symm.trans hentry
    | windows =>
      obtain ⟨hcleared, hkept⟩ := h.close_listener halive hpromises
      simp only [OsCall.run, hlibs.drop_windows rfl]
      exact h.drop halive hpromises rfl rfl rfl hcleared hkept

/-- A promised call of a living daemon that fails by a fault keeps the invariant. -/
theorem Owned.fault (hlibs : libs.Documented platform) (h : Owned platform euid s g) (halive : s.killed daemon = false)
    (code : Nat) {asked : OsCall}
    (hpromises : Promises platform euid daemon (g (.daemon daemon)) asked) :
    Owned.After platform euid g daemon asked (asked.fault libs platform euid code daemon s) := by
  cases asked with
  | closeLock file => exact h.run_closeLock hlibs halive hpromises
  | dropListener listener =>
    obtain ⟨hcleared, hkept⟩ := h.close_listener halive hpromises
    exact ⟨trivial, h.drop halive hpromises rfl rfl rfl hcleared hkept⟩
  | _ => exact h.failed (.other code) nofun nofun

/-- A killed daemon does nothing any more. -/
theorem Owned.exec_killed (h : Owned platform euid s g) (hkilled : s.killed daemon = true) {asked : OsCall}
    (hpromises : Promises platform euid daemon (g (.daemon daemon)) asked) :
    Owned.After platform euid g daemon asked (asked.exec libs platform euid daemon s) := by
  have hexec : asked.exec libs platform euid daemon s = (asked.failed (.other 0), s) := by
    unfold OsCall.exec
    rw [if_pos hkilled]
  have hanswers : Answers daemon (.call daemon asked) (asked.failed (.other 0)) := by
    cases asked <;> trivial
  have htells : Tells s (.call daemon asked) (asked.failed (.other 0)) := by
    cases asked <;> trivial
  rw [hexec]
  refine ⟨hanswers, h.quiet rfl rfl rfl (fun _ _ h => h) ((h.sound daemon).did hpromises hanswers htells) ?_ ?_⟩
  · exact fun halive => absurd (hkilled.symm.trans halive) nofun
  · exact fun halive => absurd (hkilled.symm.trans halive) nofun

/-- **Every call keeps the invariant**, as long as daemons do what they promise. -/
theorem Owned.exec (hlibs : libs.Documented platform) (h : Owned platform euid s g) {asked : OsCall}
    (hpromises : Promises platform euid daemon (g (.daemon daemon)) asked) :
    Owned.After platform euid g daemon asked (asked.exec libs platform euid daemon s) := by
  cases hkilled : s.killed daemon with
  | true => exact h.exec_killed hkilled hpromises
  | false =>
    unfold OsCall.exec
    rw [if_neg (by rw [hkilled]; exact Bool.false_ne_true)]
    have hlater (later : List (Option Nat)) : Owned platform euid { s with faults := later } g :=
      h.frame rfl rfl rfl fun _ _ h => h
    split
    · exact h.run hlibs hkilled hpromises
    · rename_i later hfaults
      exact (hlater later).run hlibs hkilled hpromises
    · rename_i code later hfaults
      exact (hlater later).fault hlibs hkilled code hpromises

end Preservation

/-! ## Every interleaving -/

section Interleaving

variable {libs : Libraries} {platform : Platform} {euid : Nat → Nat}

/-- What each actor has in its hands. -/
def handsIn (w : World (osSystem libs platform euid)) : Actor → Hands := records hands (fun _ => .empty) w

/-- The calls of the operating system and of the daemons uphold the ownership. -/
theorem upholds_owned (hlibs : libs.Documented platform) (w₀ : World (osSystem libs platform euid)) :
    Upholds (ownership platform euid) (fun _ => Hands.empty) (fun _ => True) (Owned platform euid) w₀ where
  body _ proc := nomatch proc
  entry actor call last held h := by
    cases actor with
    | daemon number =>
      exact (daemonEntry_keeps call last h).imp fun later state hlater => ⟨hlater, hlater⟩
    | system => exact ⟨⟨call, rfl⟩, fun _ _ => ⟨trivial, trivial⟩⟩
  begun s g actor call last h _ := by
    show Owned platform euid s (Function.update g actor (g actor))
    rw [Function.update_eq_self]
    exact h
  returned s g actor result h _ := by
    show Owned platform euid s (Function.update g actor (g actor))
    rw [Function.update_eq_self]
    exact h
  did w actor op next _ _ _ h hrequires := by
    cases actor with
    | daemon number =>
      obtain ⟨asked, rfl, hpromises⟩ := hrequires
      exact h.exec hlibs hpromises
    | system =>
      obtain ⟨number, rfl⟩ := hrequires
      have hkilled := h.kill number
      rw [← Function.update_eq_self .system (records hands (fun _ => Hands.empty) w)] at hkilled
      exact ⟨trivial, hkilled⟩

/-- No lock is taken and nobody listens. -/
structure Os.Unused (s : Os) : Prop where
  locks : ∀ path, s.locks path = none
  endpoints : ∀ name listener mode, s.endpoints name ≠ some (.socket listener mode)

/-- The ownership and the promises in every world of every run. -/
theorem owned_run (hlibs : libs.Documented platform) {s : Os} (hunused : s.Unused)
    (moves : List (Move (osSystem libs platform euid))) :
    let w := (booted libs platform euid s).run moves
    Owned platform euid w.shared (handsIn w) ∧ AllMeet (ownership platform euid) (fun _ => Hands.empty) w := by
  intro w
  have hempty : handsIn (booted libs platform euid s) = fun _ => Hands.empty := by
    funext actor
    cases actor <;> rfl
  have howned : Owned platform euid (booted libs platform euid s).shared (handsIn (booted libs platform euid s)) := by
    rw [hempty]
    refine ⟨fun number => ⟨nofun, nofun, fun _ => nofun, nofun⟩, nofun, ?_, nofun, ?_⟩
    · intro path file hlock
      cases (hunused.locks path).symm.trans hlock
    · intro name listener mode hentry
      exact absurd hentry (hunused.endpoints name listener mode)
  refine (upholds_owned hlibs _).invariant howned (fun actor => ?_) (World.reach_run_all _ moves)
  cases actor with
  | daemon number => exact ⟨trivial, rfl⟩
  | system => exact ⟨trivial, trivial⟩

end Interleaving

/-! ## A start that is left alone -/

section Start

variable {libs : Libraries} {platform : Platform} {euid : Nat → Nat} {s : Os} {daemon : Nat} {runtimeDirectory : Path}
  {userScope : String}

/-- The daemon lives and no call fails by a fault. -/
structure Calm (s : Os) (daemon : Nat) : Prop where
  alive : s.killed daemon = false
  faultless : s.faults = []

/-- A calm daemon's next call does not fail by a fault. -/
theorem alone_perform (h : Calm s daemon) (asked : OsCall) {Q : asked.Answer → Os → Prop} :
    (perform daemon asked).Alone (OsOp.exec libs platform euid) Q s ↔
      Q (asked.run libs euid daemon s).1 (asked.run libs euid daemon s).2 := by
  have hexec : asked.exec libs platform euid daemon s = asked.run libs euid daemon s := by
    unfold OsCall.exec
    rw [h.alive, h.faultless]
    rfl
  show Q (asked.exec libs platform euid daemon s).1 (asked.exec libs platform euid daemon s).2 ↔ _
  rw [hexec]

/-- The directory is absent, or one that the daemon accepts. -/
def Accepts (platform : Platform) (euid : Nat → Nat) (daemon : Nat) (found : Option Metadata) : Prop :=
  ∀ metadata, found = some metadata → metadata.isDir = true ∧ (platform = .unix → metadata.PrivateTo (euid daemon))

/-- An accepted directory is there after its creation. -/
theorem createDirectory_run (h : Calm s daemon)
    (haccepts : Accepts platform euid daemon (s.directories runtimeDirectory)) :
    ∃ metadata t, OsCall.run libs euid daemon (.createDirectory runtimeDirectory) s = (.ok (), t) ∧
      t.directories runtimeDirectory = some metadata ∧ (platform = .unix → metadata.PrivateTo (euid daemon)) ∧
      Calm t daemon ∧ t.locks = s.locks ∧ t.endpoints = s.endpoints := by
  cases hfound : s.directories runtimeDirectory with
  | some metadata =>
    obtain ⟨hdir, hprivate⟩ := haccepts metadata hfound
    refine ⟨metadata, s, ?_, hfound, hprivate, h, rfl, rfl⟩
    simp only [OsCall.run, hfound, hdir, if_true]
  | none =>
    have hmode : 0o700 &&& 0o077 = 0 := by decide
    refine ⟨⟨true, euid daemon, 0o700⟩,
      { s with
        directories := Function.update s.directories runtimeDirectory (some ⟨true, euid daemon, 0o700⟩) },
      ?_, Function.update_self _ _ _, fun _ => ⟨rfl, rfl, hmode⟩, ⟨h.alive, h.faultless⟩, rfl, rfl⟩
    simp only [OsCall.run, hfound]

theorem prepareRuntimeDirectory_alone (h : Calm s daemon)
    (haccepts : Accepts platform euid daemon (s.directories runtimeDirectory)) :
    (prepareRuntimeDirectory platform euid daemon runtimeDirectory).Alone (OsOp.exec libs platform euid)
      (fun result t => result = .ok () ∧ Calm t daemon ∧ t.locks = s.locks ∧ t.endpoints = s.endpoints) s := by
  obtain ⟨metadata, t, hrun, hfound, hprivate, hcalm, hlocks, hendpoints⟩ := createDirectory_run h haccepts
  unfold prepareRuntimeDirectory
  rw [alone_bind, alone_perform h, hrun]
  cases platform with
  | windows => exact ⟨rfl, hcalm, hlocks, hendpoints⟩
  | unix =>
    dsimp only
    rw [alone_bind, alone_perform hcalm]
    simp only [OsCall.run, hfound, okOr]
    rw [if_pos (hprivate rfl)]
    exact ⟨rfl, hcalm, hlocks, hendpoints⟩

theorem forUser_alone (h : Calm s daemon) (hscope : validScope userScope = true)
    (haccepts : Accepts platform euid daemon (s.directories runtimeDirectory)) :
    (forUser platform euid daemon runtimeDirectory userScope).Alone (OsOp.exec libs platform euid)
      (fun result t => result = .ok ⟨platform.kindOf runtimeDirectory userScope, lockPathOf runtimeDirectory⟩ ∧
        Calm t daemon ∧ t.locks = s.locks ∧ t.endpoints = s.endpoints) s := by
  unfold forUser
  rw [if_pos hscope, alone_bind]
  refine (prepareRuntimeDirectory_alone h haccepts).imp fun result t ht => ?_
  obtain ⟨rfl, hcalm, hlocks, hendpoints⟩ := ht
  exact ⟨rfl, hcalm, hlocks, hendpoints⟩

/-- The owner of the lock can free the name of the endpoint. -/
def Freeable (s : Os) (kind : EndpointKind) : Platform → Prop
  | .unix => s.endpoints kind ≠ some .directory
  | .windows => s.endpoints kind = none

theorem removeStale_alone (h : Calm s daemon)
    (hname : Freeable s (platform.kindOf runtimeDirectory userScope) platform) :
    (removeStale platform daemon (platform.kindOf runtimeDirectory userScope)).Alone (OsOp.exec libs platform euid)
      (fun result t => result = .ok () ∧ Calm t daemon ∧
        t.endpoints (platform.kindOf runtimeDirectory userScope) = none) s := by
  cases platform with
  | windows => exact ⟨rfl, h, hname⟩
  | unix =>
    have hnone : s.endpoints (.unixSocket (runtimeDirectory ++ ["slotpilot.sock"])) ≠ some .directory := hname
    show (perform daemon (.pathExists (runtimeDirectory ++ ["slotpilot.sock"])) >>= _).Alone _ _ _
    rw [alone_bind, alone_perform h]
    cases hentry : s.endpoints (.unixSocket (runtimeDirectory ++ ["slotpilot.sock"])) with
    | none =>
      simp only [OsCall.run, hentry, Option.isSome_none, Bool.false_eq_true, if_false]
      exact ⟨rfl, h, hentry⟩
    | some entry =>
      simp only [OsCall.run, hentry, Option.isSome_some, if_true]
      rw [alone_perform h (.removeFile _)]
      cases entry with
      | directory => exact absurd hentry hnone
      | file =>
        simp only [OsCall.run, hentry]
        exact ⟨trivial, ⟨h.alive, h.faultless⟩, Function.update_self _ _ _⟩
      | socket listener mode =>
        simp only [OsCall.run, hentry]
        exact ⟨trivial, ⟨h.alive, h.faultless⟩, Function.update_self _ _ _⟩

theorem createListener_alone (hlibs : libs.Documented platform) (h : Calm s daemon)
    (hname : s.endpoints (platform.kindOf runtimeDirectory userScope) = none) :
    (createListener platform daemon (platform.kindOf runtimeDirectory userScope)).Alone (OsOp.exec libs platform euid)
      (fun result t => Calm t daemon ∧ ∃ listener mode, result = .ok listener ∧
        t.endpoints (platform.kindOf runtimeDirectory userScope) = some (.socket listener mode)) s := by
  obtain ⟨listener, mode, serials, -, -, hcreated⟩ := hlibs.create_free hname daemon
  have hperform : (do
      return (← perform daemon (.createListener (platform.kindOf runtimeDirectory userScope))).mapError .os :
        Program os (Except EndpointError Listener)).Alone (OsOp.exec libs platform euid)
      (fun result t => Calm t daemon ∧ ∃ listener mode, result = .ok listener ∧
        t.endpoints (platform.kindOf runtimeDirectory userScope) = some (.socket listener mode)) s := by
    rw [alone_bind, alone_perform h]
    simp only [OsCall.run, hcreated]
    exact ⟨⟨h.alive, h.faultless⟩, listener, mode, rfl, Function.update_self _ _ _⟩
  cases platform <;> exact hperform

theorem restrict_alone (hlibs : libs.Documented platform) (h : Calm s daemon) {listener : Listener} {mode : Nat}
    (hentry : s.endpoints (platform.kindOf runtimeDirectory userScope) = some (.socket listener mode)) :
    (restrict platform daemon (platform.kindOf runtimeDirectory userScope) listener).Alone (OsOp.exec libs platform euid)
      (fun result t => result = .ok listener ∧
        libs.connect (platform.kindOf runtimeDirectory userScope) t = .ok listener) s := by
  cases platform with
  | windows => exact ⟨rfl, hlibs.connect_ok.mpr ⟨mode, hentry⟩⟩
  | unix =>
    have hthere : s.endpoints (.unixSocket (runtimeDirectory ++ ["slotpilot.sock"])) = some (.socket listener mode) :=
      hentry
    show (perform daemon (.setPermissions (runtimeDirectory ++ ["slotpilot.sock"]) 0o600) >>= _).Alone _ _ _
    rw [alone_bind, alone_perform h]
    simp only [OsCall.run, hthere]
    exact ⟨rfl, hlibs.connect_ok.mpr ⟨0o600, Function.update_self _ _ _⟩⟩

/-- The owner of the lock binds an endpoint whose name it can free. -/
theorem bindOwned_alone (hlibs : libs.Documented platform) (h : Calm s daemon)
    (hname : Freeable s (platform.kindOf runtimeDirectory userScope) platform) :
    (bindOwned platform daemon (platform.kindOf runtimeDirectory userScope)).Alone (OsOp.exec libs platform euid)
      (fun result t => ∃ listener, result = .ok listener ∧
        libs.connect (platform.kindOf runtimeDirectory userScope) t = .ok listener) s := by
  unfold bindOwned
  rw [alone_bind]
  refine (removeStale_alone h hname).imp fun result t ht => ?_
  obtain ⟨rfl, hcalm, hfree⟩ := ht
  dsimp only
  rw [alone_bind]
  refine (createListener_alone hlibs hcalm hfree).imp fun result u hu => ?_
  obtain ⟨hcalm, listener, mode, rfl, hentry⟩ := hu
  refine (restrict_alone hlibs hcalm hentry).imp fun result v hv => ?_
  exact ⟨listener, hv⟩

/-- A bind succeeds when the lock is free, and the name can be made so. -/
theorem bind_free (hlibs : libs.Documented platform) (h : Calm s daemon)
    (hlock : s.locks (lockPathOf runtimeDirectory) = none)
    (hname : Freeable s (platform.kindOf runtimeDirectory userScope) platform) :
    (bind platform daemon ⟨platform.kindOf runtimeDirectory userScope, lockPathOf runtimeDirectory⟩).Alone
      (OsOp.exec libs platform euid)
      (fun result t => ∃ server, result = .ok server ∧
        libs.connect (platform.kindOf runtimeDirectory userScope) t = .ok server.listener) s := by
  have hopened : Calm { s with serials := s.serials + 1 } daemon := ⟨h.alive, h.faultless⟩
  let file : LockFile := ⟨lockPathOf runtimeDirectory, daemon, s.serials⟩
  have hlocked : libs.tryLockExclusive file { s with serials := s.serials + 1 } =
      (.ok (), { s with serials := s.serials + 1, locks := Function.update s.locks file.path (some file) }) :=
    hlibs.lock_free hlock
  unfold bind
  rw [alone_bind, alone_perform h]
  simp only [OsCall.run]
  rw [alone_bind, alone_perform hopened]
  simp only [OsCall.run]
  rw [hlocked]
  dsimp only
  rw [alone_bind]
  refine Program.Alone.imp (bindOwned_alone hlibs ⟨h.alive, h.faultless⟩ ?_) fun result t ht => ?_
  · cases platform <;> exact hname
  · obtain ⟨listener, rfl, hconnect⟩ := ht
    exact ⟨_, rfl, hconnect⟩

/-- A bind fails, and changes no lock and no endpoint, when another has the lock. -/
theorem bind_contended (hlibs : libs.Documented platform) (h : Calm s daemon) {address : EndpointAddress}
    {holder : LockFile}
    (hlock : s.locks address.lockPath = some holder) (hother : holder.daemon ≠ daemon) :
    (bind platform daemon address).Alone (OsOp.exec libs platform euid)
      (fun result t => result = .error .endpointActive ∧ t.locks = s.locks ∧ t.endpoints = s.endpoints) s := by
  let file : LockFile := ⟨address.lockPath, daemon, s.serials⟩
  have hopened : Calm { s with serials := s.serials + 1 } daemon := ⟨h.alive, h.faultless⟩
  have hfile : holder ≠ file := fun hsame => hother (congrArg LockFile.daemon hsame)
  have hlocked : libs.tryLockExclusive file { s with serials := s.serials + 1 } =
      (.error .contended, { s with serials := s.serials + 1 }) := hlibs.lock_contended hlock hfile
  have hclosed : libs.closeLock file { s with serials := s.serials + 1 } = { s with serials := s.serials + 1 } := by
    refine hlibs.close_unlocked ?_
    show s.locks address.lockPath ≠ some file
    rw [hlock]
    exact fun hsame => hfile (Option.some.inj hsame)
  unfold bind
  rw [alone_bind, alone_perform h]
  simp only [OsCall.run]
  rw [alone_bind, alone_perform hopened]
  simp only [OsCall.run]
  rw [hlocked]
  dsimp only
  rw [alone_bind, alone_perform hopened (.closeLock _)]
  simp only [OsCall.run]
  rw [hclosed]
  exact ⟨rfl, rfl, rfl⟩

/-- What a start that is left alone ends with. -/
theorem start_alone (h : Calm s daemon) (hscope : validScope userScope = true)
    (haccepts : Accepts platform euid daemon (s.directories runtimeDirectory)) {last : DaemonState}
    (hlast : last.server = none) {Q : DaemonState → Os → Prop}
    (hbind : ∀ t, Calm t daemon → t.locks = s.locks → t.endpoints = s.endpoints →
      (bind platform daemon ⟨platform.kindOf runtimeDirectory userScope, lockPathOf runtimeDirectory⟩).Alone
        (OsOp.exec libs platform euid)
        (fun result u => Q (match result with
          | .error error => ⟨.error error, none⟩
          | .ok server => ⟨.ok (), some server⟩) u) t) :
    (daemonEntry platform euid daemon (.start runtimeDirectory userScope) last).Alone (OsOp.exec libs platform euid) Q
      s := by
  unfold daemonEntry
  rw [hlast]
  dsimp only
  rw [alone_bind]
  refine (forUser_alone h hscope haccepts).imp fun result t ht => ?_
  obtain ⟨rfl, hcalm, hlocks, hendpoints⟩ := ht
  dsimp only
  rw [alone_bind]
  refine (hbind t hcalm hlocks hendpoints).imp fun result u hu => ?_
  cases result <;> exact hu

end Start

/-! ## Ownership -/

section Theorems

variable {libs : Libraries} {platform : Platform} {euid : Nat → Nat}

/-- The server that a daemon has in its hands. -/
def serverIn (w : World (osSystem libs platform euid)) (number : Nat) : Option LocalServer :=
  (handsIn w (.daemon number)).grip.server

/-- A daemon has the lock of a directory. -/
def HasLock (w : World (osSystem libs platform euid)) (number : Nat) (runtimeDirectory : Path) : Prop :=
  ∃ file, (handsIn w (.daemon number)).grip.owned = some file ∧ file.path = lockPathOf runtimeDirectory

theorem Grip.server_some {grip : Grip} {server : LocalServer} :
    grip.server = some server ↔ ∃ restricted, grip = .listening server.ownership server.listener restricted := by
  cases grip with
  | listening file listener restricted =>
    constructor
    · rintro ⟨⟩
      exact ⟨restricted, rfl⟩
    · rintro ⟨_, ⟨⟩⟩
      rfl
  | _ => simp [Grip.server]

theorem Between.server_eq {held : Hands} {server : Option LocalServer} (h : Between platform held server) :
    held.grip.server = server := by
  cases server with
  | none =>
    have hempty : held.grip = .empty := h
    rw [hempty]
    rfl
  | some server =>
    obtain ⟨restricted, hgrip, -⟩ := h
    exact Grip.server_some.mpr ⟨restricted, hgrip⟩

/-- An authorized peer on Unix is of the daemon's own user. -/
theorem authorizePeer_unix {daemon : Nat} {stream : Stream} {authorization : PeerAuthorization}
    (h : authorizePeer .unix euid daemon stream = .ok authorization) :
    ∃ creds, stream.peerCreds = .ok creds ∧ creds.euid = some (euid daemon) := by
  unfold authorizePeer at h
  obtain ⟨creds, hcreds, h⟩ := exceptBind_ok.mp h
  obtain ⟨user, huser, h⟩ := exceptBind_ok.mp h
  refine ⟨creds, exceptMapError_ok.mp hcreds, ?_⟩
  rw [okOr_ok.mp huser]
  by_cases hsame : user = euid daemon
  · rw [hsame]
  · rw [if_pos hsame] at h
    cases h

/-- **One daemon at an endpoint.** Wherever daemons are in their starts, exchanges and stops, and whichever were killed:
two living daemons never have servers with the same lock or the same name; a client that connects at the name of a
living daemon's server reaches it, and whatever a client reaches is the server of a living daemon. On Unix a server
that has been bound is in a private directory of its user with a socket for that user alone, and frames are only ever
exchanged with peers of that user. -/
theorem endpoint_owned (hlibs : libs.Documented platform) {s : Os} (hunused : s.Unused)
    (moves : List (Move (osSystem libs platform euid))) :
    let w := (booted libs platform euid s).run moves
    (∀ number other here there, w.shared.killed number = false → w.shared.killed other = false →
      serverIn w number = some here → serverIn w other = some there →
      here.ownership.path = there.ownership.path ∨ here.listener.name = there.listener.name → number = other) ∧
    (∀ number here, w.shared.killed number = false → serverIn w number = some here →
      libs.connect here.listener.name w.shared = .ok here.listener) ∧
    (∀ kind listener, libs.connect kind w.shared = .ok listener → w.shared.killed listener.daemon = false ∧
      ∃ here, serverIn w listener.daemon = some here ∧ here.listener = listener) ∧
    (∀ number state, (w.party (.daemon number)).activity = .idle state → serverIn w number = state.server ∧
      (platform = .unix → ∀ here, state.server = some here → w.shared.killed number = false →
        (∃ runtimeDirectory found, here.ownership.path = lockPathOf runtimeDirectory ∧
          w.shared.directories runtimeDirectory = some found ∧ found.PrivateTo (euid number)) ∧
        w.shared.endpoints here.listener.name = some (.socket here.listener 0o600))) ∧
    (platform = .unix → ∀ number listener stream answer,
      .did (.call number (.exchangeFrames listener stream)) answer ∈ (w.party (.daemon number)).history →
      ∃ creds, stream.peerCreds = .ok creds ∧ creds.euid = some (euid number)) := by
  intro w
  obtain ⟨howned, hmeet⟩ := owned_run hlibs hunused moves
  refine ⟨?_, ?_, ?_, ?_, ?_⟩
  · intro number other here there halive halive' hhere hthere hsame
    obtain ⟨_, hgrip⟩ := Grip.server_some.mp hhere
    obtain ⟨_, hgrip'⟩ := Grip.server_some.mp hthere
    rcases hsame with hpath | hname
    · exact howned.lock_unique halive' halive (by rw [hgrip']; rfl) (by rw [hgrip]; rfl) hpath
    · exact howned.name_unique halive' halive hgrip' hgrip hname
  · intro number here halive hhere
    obtain ⟨_, hgrip⟩ := Grip.server_some.mp hhere
    obtain ⟨mode, hentry, -⟩ := howned.bound _ _ _ _ halive hgrip
    exact hlibs.connect_ok.mpr ⟨mode, hentry⟩
  · intro kind listener hconnect
    obtain ⟨mode, hentry⟩ := hlibs.connect_ok.mp hconnect
    obtain ⟨-, halive, file, restricted, hgrip⟩ := howned.named _ _ _ hentry
    exact ⟨halive, ⟨listener, file⟩, Grip.server_some.mpr ⟨restricted, hgrip⟩, rfl⟩
  · intro number state hidle
    have hbetween : Between platform (handsIn w (.daemon number)) state.server := by
      have hmeets := (hmeet (.daemon number)).2
      rw [hidle] at hmeets
      exact hmeets
    refine ⟨hbetween.server_eq, fun hunix here hhere halive => ?_⟩
    rw [hhere] at hbetween
    obtain ⟨restricted, hgrip, hrestricted⟩ := hbetween
    obtain ⟨mode, hentry, hmode⟩ := howned.bound _ _ _ _ halive hgrip
    rw [hmode (hrestricted hunix)] at hentry
    exact ⟨(howned.sound number).guarded hunix here.ownership (by rw [hgrip]; rfl), hentry⟩
  · rintro rfl number listener stream answer hmem
    obtain ⟨held, ⟨asked, hasked, hpromises⟩, -⟩ := (hmeet (.daemon number)).1.of_mem hmem
    cases hasked
    obtain ⟨-, authorization, hauthorized⟩ := hpromises
    exact authorizePeer_unix hauthorized

/-- One user's daemons, where a crash has left the name of a socket behind. -/
def crashedOs : Os where
  directories := fun _ => none
  locks := fun _ => none
  endpoints := fun kind => if kind = .unixSocket ["run", "slotpilot.sock"] then some .file else none
  serials := 0
  socketMode := 0o755
  killed := fun _ => false
  faults := []

theorem crashedOs_unused : crashedOs.Unused := by
  refine ⟨fun _ => rfl, fun name listener mode => ?_⟩
  unfold crashedOs
  dsimp only
  split <;> nofun

/-- A daemon starts, and a second one meanwhile. -/
def twoStarts : List (Move (osSystem (systemLibraries .unix) .unix fun _ => 1000)) :=
  [.enter (.daemon 0) (.start ["run"] "phase0-dev"), .enter (.daemon 1) (.start ["run"] "phase0-dev")] ++
    (List.replicate 10 [Move.advance (.daemon 1), .advance (.daemon 0)]).flatten

/-- The one that starts is killed. -/
def startAndKill : List (Move (osSystem (systemLibraries .unix) .unix fun _ => 1000)) :=
  twoStarts ++ [.enter .system 1, .advance .system]

def crashedWorld (moves : List (Move (osSystem (systemLibraries .unix) .unix fun _ => 1000))) :
    World (osSystem (systemLibraries .unix) .unix fun _ => 1000) :=
  (booted (systemLibraries .unix) .unix (fun _ => 1000) crashedOs).run moves

theorem endpoint_owned_crashed :
    ∃ here, serverIn (crashedWorld twoStarts) 1 = some here ∧
      (systemLibraries .unix).connect here.listener.name (crashedWorld twoStarts).shared = .ok here.listener := by
  obtain ⟨-, hreaches, -⟩ := endpoint_owned (systemLibraries_documented .unix) crashedOs_unused twoStarts
  have hserver : serverIn (crashedWorld twoStarts) 1 =
      some ⟨⟨.unixSocket ["run", "slotpilot.sock"], 1, 2⟩, ⟨["run", "slotpilot.lock"], 1, 0⟩⟩ := by decide +kernel
  exact ⟨_, hserver, hreaches 1 _ (by decide +kernel) hserver⟩

/-- A start of a daemon that is then left alone for some moves. -/
def startAlone (w : World (osSystem libs platform euid)) (number : Nat) (runtimeDirectory : Path) (userScope : String)
    (count : Nat) : World (osSystem libs platform euid) :=
  (w.step (.enter (.daemon number) (.start runtimeDirectory userScope))).run
    (List.replicate count (.advance (.daemon number)))

/-- A start that is left alone goes where its program leads. -/
theorem startAlone_ends {w : World (osSystem libs platform euid)} {number : Nat} {last : DaemonState}
    (hidle : (w.party (.daemon number)).activity = .idle last) {runtimeDirectory : Path} {userScope : String}
    {Q : DaemonState → Os → Prop}
    (h : (daemonEntry platform euid number (.start runtimeDirectory userScope) last).Alone
      (OsOp.exec libs platform euid) Q w.shared) :
    ∃ count state,
      ((startAlone w number runtimeDirectory userScope count).party (.daemon number)).activity = .idle state ∧
        Q state (startAlone w number runtimeDirectory userScope count).shared := by
  unfold startAlone
  rw [World.step_enter hidle]
  exact World.alone World.proceed_activity h

/-- **A start takes over when it can.** Let a daemon without a server start, alone and without faults, in a directory
that it accepts, after any run. If a living daemon has the lock of the directory, the start fails as active and changes
no lock and no endpoint. If none has, whatever was killed or left behind, and the name can be freed, the start succeeds
and a client reaches its server. -/
theorem endpoint_taken_over (hlibs : libs.Documented platform) {s : Os} (hunused : s.Unused)
    {moves : List (Move (osSystem libs platform euid))} {w : World (osSystem libs platform euid)}
    (hw : (booted libs platform euid s).run moves = w) {number : Nat}
    {runtimeDirectory : Path} {userScope : String} {last : DaemonState}
    (hidle : (w.party (.daemon number)).activity = .idle last) (hlast : last.server = none)
    (hcalm : Calm w.shared number) (hscope : validScope userScope = true)
    (haccepts : Accepts platform euid number (w.shared.directories runtimeDirectory)) :
    ((∃ holder, w.shared.killed holder = false ∧ HasLock w holder runtimeDirectory) → ∃ count,
      ((startAlone w number runtimeDirectory userScope count).party (.daemon number)).activity =
          .idle ⟨.error .endpointActive, none⟩ ∧
        (startAlone w number runtimeDirectory userScope count).shared.locks = w.shared.locks ∧
        (startAlone w number runtimeDirectory userScope count).shared.endpoints = w.shared.endpoints) ∧
    ((∀ holder, w.shared.killed holder = false → ¬HasLock w holder runtimeDirectory) →
      Freeable w.shared (platform.kindOf runtimeDirectory userScope) platform → ∃ count server,
      ((startAlone w number runtimeDirectory userScope count).party (.daemon number)).activity =
          .idle ⟨.ok (), some server⟩ ∧
        libs.connect (platform.kindOf runtimeDirectory userScope)
          (startAlone w number runtimeDirectory userScope count).shared = .ok server.listener) := by
  obtain ⟨howned, hmeet⟩ := @owned_run libs platform euid hlibs s hunused moves
  rw [hw] at howned hmeet
  have hempty : (handsIn w (.daemon number)).grip = .empty := by
    have hmeets := (hmeet (.daemon number)).2
    rw [hidle] at hmeets
    have hbetween : Between platform (handsIn w (.daemon number)) last.server := hmeets
    rw [hlast] at hbetween
    exact hbetween
  constructor
  · rintro ⟨holder, halive, file, hholds, hpath⟩
    have hlock : w.shared.locks (lockPathOf runtimeDirectory) = some file := hpath ▸ howned.locked _ _ halive hholds
    have hother : file.daemon ≠ number := by
      intro hsame
      rw [(howned.sound holder).file file (Grip.owned_file hholds)] at hsame
      rw [hsame, hempty] at hholds
      cases hholds
    have hfails : (daemonEntry platform euid number (.start runtimeDirectory userScope) last).Alone
        (OsOp.exec libs platform euid)
        (fun state t => state = ⟨.error .endpointActive, none⟩ ∧ t.locks = w.shared.locks ∧
          t.endpoints = w.shared.endpoints) w.shared := by
      refine start_alone hcalm hscope haccepts hlast fun t ht hlocks hendpoints => ?_
      refine (bind_contended hlibs ht (by rw [hlocks]; exact hlock) hother).imp fun result u hu => ?_
      obtain ⟨rfl, hl, he⟩ := hu
      exact ⟨rfl, hl.trans hlocks, he.trans hendpoints⟩
    obtain ⟨count, state, hstate, rfl, hsame⟩ := startAlone_ends hidle hfails
    exact ⟨count, hstate, hsame⟩
  · intro hnone hname
    have hlock : w.shared.locks (lockPathOf runtimeDirectory) = none := by
      rw [Option.eq_none_iff_forall_not_mem]
      intro file hfile
      obtain ⟨hpath, halive, hholds⟩ := howned.holder _ _ hfile
      exact hnone file.daemon halive ⟨file, hholds, hpath⟩
    have hsucceeds : (daemonEntry platform euid number (.start runtimeDirectory userScope) last).Alone
        (OsOp.exec libs platform euid)
        (fun state t => ∃ server, state = ⟨.ok (), some server⟩ ∧
          libs.connect (platform.kindOf runtimeDirectory userScope) t = .ok server.listener) w.shared := by
      refine start_alone hcalm hscope haccepts hlast fun t ht hlocks hendpoints => ?_
      have hfreeable : Freeable t (platform.kindOf runtimeDirectory userScope) platform := by
        cases platform with
        | unix => exact fun hentry => hname (hendpoints ▸ hentry)
        | windows => exact (congrFun hendpoints _).trans hname
      refine (bind_free hlibs ht (by rw [hlocks]; exact hlock) hfreeable).imp fun result u hu => ?_
      obtain ⟨server, rfl, hconnect⟩ := hu
      exact ⟨server, rfl, hconnect⟩
    obtain ⟨count, state, hstate, server, rfl, hconnect⟩ := startAlone_ends hidle hsucceeds
    exact ⟨count, server, hstate, hconnect⟩

/-- A third start fails while the daemon that has started lives, and takes over when it was killed. -/
theorem endpoint_taken_over_crashed :
    (∃ count, ((startAlone (crashedWorld twoStarts) 2 ["run"] "phase0-dev" count).party (.daemon 2)).activity =
      .idle ⟨.error .endpointActive, none⟩) ∧
    ∃ count server,
      ((startAlone (crashedWorld startAndKill) 2 ["run"] "phase0-dev" count).party (.daemon 2)).activity =
        .idle ⟨.ok (), some server⟩ ∧
      (systemLibraries .unix).connect (.unixSocket ["run", "slotpilot.sock"])
        (startAlone (crashedWorld startAndKill) 2 ["run"] "phase0-dev" count).shared = .ok server.listener := by
  have hscope : validScope "phase0-dev" = true := by decide +kernel
  have haccepts (moves : List (Move (osSystem (systemLibraries .unix) .unix fun _ => 1000)))
      (hfound : (crashedWorld moves).shared.directories ["run"] = some ⟨true, 1000, 0o700⟩) :
      Accepts .unix (fun _ => 1000) 2 ((crashedWorld moves).shared.directories ["run"]) := by
    rw [hfound]
    rintro _ ⟨⟩
    exact ⟨rfl, fun _ => by decide⟩
  constructor
  · have hholds : (crashedWorld twoStarts).shared.killed 1 = false ∧ HasLock (crashedWorld twoStarts) 1 ["run"] :=
      ⟨by decide +kernel, ⟨["run", "slotpilot.lock"], 1, 0⟩, by decide +kernel, rfl⟩
    obtain ⟨count, hfails, -⟩ := (endpoint_taken_over (systemLibraries_documented .unix) crashedOs_unused
      (rfl : _ = crashedWorld twoStarts) (rfl : ((crashedWorld twoStarts).party (.daemon 2)).activity =
        .idle ⟨.ok (), none⟩) rfl ⟨by decide +kernel, by decide +kernel⟩ hscope (haccepts _ rfl)).1 ⟨1, hholds⟩
    exact ⟨count, hfails⟩
  · have hlock : (crashedWorld startAndKill).shared.locks (lockPathOf ["run"]) = none := by decide +kernel
    have hnone : ∀ holder, (crashedWorld startAndKill).shared.killed holder = false →
        ¬HasLock (crashedWorld startAndKill) holder ["run"] := by
      rintro holder halive ⟨file, hholds, hpath⟩
      obtain ⟨howned, -⟩ := owned_run (systemLibraries_documented .unix) crashedOs_unused startAndKill
      have hlocked := howned.locked _ _ halive hholds
      rw [hpath] at hlocked
      cases hlock.symm.trans hlocked
    have hname : Freeable (crashedWorld startAndKill).shared (Platform.unix.kindOf ["run"] "phase0-dev") .unix := by
      have hentry : (crashedWorld startAndKill).shared.endpoints (.unixSocket ["run", "slotpilot.sock"]) =
        some .file := rfl
      show (crashedWorld startAndKill).shared.endpoints (.unixSocket ["run", "slotpilot.sock"]) ≠ some .directory
      rw [hentry]
      nofun
    exact (endpoint_taken_over (systemLibraries_documented .unix) crashedOs_unused
      (rfl : _ = crashedWorld startAndKill) (rfl : ((crashedWorld startAndKill).party (.daemon 2)).activity =
        .idle ⟨.ok (), none⟩) rfl ⟨by decide +kernel, by decide +kernel⟩ hscope (haccepts _ rfl)).2 hnone hname

end Theorems

end Slotpilot.Ipc.Ownership
