/-
The control service: three requests on one authentication engine, one table of
sessions and the bandwidth policies.

A request comes with what the machine supplies while it is handled, which is the
two clocks and the draws of the random generator.
-/

import Udpix.ControlPlane.Auth
import Udpix.ControlPlane.SessionMgr

namespace Udpix.ControlPlane

open Protocol

structure PolicyEngine where
  defaultMaxBps : UInt64
  perUser : AssocMap String UInt64

def PolicyEngine.resolve (policies : PolicyEngine) (username : String) : UInt64 :=
  (policies.perUser.lookup username).getD policies.defaultMaxBps

inductive StatusCode where
  | unauthenticated
  | internal
deriving DecidableEq

structure Status where
  code : StatusCode
  message : String
deriving DecidableEq

inductive Request (Token : Type) where
  | authenticate (username password : String)
  | heartbeat (sessionId : String) (jwtToken : Token)
  | terminate (sessionId : String) (jwtToken : Token)

structure AuthResponse (Token : Type) where
  sessionId : String
  jwtToken : Token
  sessionKey : List UInt8
  sessionNonce : List UInt8
  maxBps : UInt64

inductive Response (Token : Type) where
  | authenticate (response : AuthResponse Token)
  | heartbeat (ok : Bool)
  | terminate (ok : Bool)

structure Moment where
  now : Instant
  unixTime : Option Nat
  draw : Draw

structure Arrival (Token : Type) where
  moment : Moment
  request : Request Token

structure ControlService where
  auth : AuthEngine
  sessions : SessionManager
  policies : PolicyEngine

namespace ControlService

variable {Token : Type} (crypto : Crypto Token)

/-- The session is in the table before its token is issued. -/
def authenticate (service : ControlService) (moment : Moment) (username password : String) :
    ControlService × Except Status (Response Token) :=
  if service.auth.authenticate crypto username password then
    let (session, sessions) := service.sessions.create moment.draw moment.now username
      (service.policies.resolve username)
    let created := { service with sessions := sessions }
    match service.auth.issueToken crypto moment.unixTime username session.sessionUuid with
    | .error message => (created, .error { code := .internal, message := message })
    | .ok (jwt, auth) =>
        ({ created with auth := auth },
          .ok (.authenticate
            { sessionId := session.sessionUuid
              jwtToken := jwt
              sessionKey := session.sessionKey.toList
              sessionNonce := session.sessionNonce.toList
              maxBps := session.maxBps }))
  else (service, .error { code := .unauthenticated, message := "invalid credentials" })

def heartbeat (service : ControlService) (moment : Moment) (sessionId : String)
    (jwtToken : Token) : ControlService × Except Status (Response Token) :=
  match service.auth.verifyToken crypto moment.unixTime jwtToken with
  | none => (service, .error { code := .unauthenticated, message := "invalid token" })
  | some _ =>
      let (ok, sessions) := service.sessions.heartbeat moment.now sessionId
      ({ service with sessions := sessions }, .ok (.heartbeat ok))

def terminate (service : ControlService) (moment : Moment) (sessionId : String)
    (jwtToken : Token) : ControlService × Except Status (Response Token) :=
  match service.auth.verifyToken crypto moment.unixTime jwtToken with
  | none => (service, .error { code := .unauthenticated, message := "invalid token" })
  | some _ =>
      let (ok, sessions) := service.sessions.terminate sessionId
      ({ service with sessions := sessions }, .ok (.terminate ok))

def handle (service : ControlService) (arrival : Arrival Token) :
    ControlService × Except Status (Response Token) :=
  match arrival.request with
  | .authenticate username password =>
      service.authenticate crypto arrival.moment username password
  | .heartbeat sessionId jwtToken => service.heartbeat crypto arrival.moment sessionId jwtToken
  | .terminate sessionId jwtToken => service.terminate crypto arrival.moment sessionId jwtToken

def next (service : ControlService) (arrival : Arrival Token) : ControlService :=
  (service.handle crypto arrival).1

def run (service : ControlService) (history : List (Arrival Token)) : ControlService :=
  history.foldl (next crypto) service

end ControlService

end Udpix.ControlPlane
