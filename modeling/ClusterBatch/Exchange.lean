import ClusterBatch.Reply.Decode
import ClusterBatch.Session

/-!
# Exchanges

A parcel is a frame for one node together with the number of replies it asks for. Exchanging it
means to send it until the connection does not fail, with waits in between, or until it has been
sent often enough. Only a failed connection is a reason to send it again: an answer that makes no
sense is final.

Main statement: `readReplies_length`, what is read are as many replies as were asked for.
-/

namespace ClusterBatch

def readRemaining (total : Nat) : Nat → Bytes → Except ExchangeError (List Reply)
  | 0, _ => .ok []
  | left + 1, data =>
    match Reply.decode {} data with
    | .ok (reply, rest) => (reply :: ·) <$> readRemaining total left rest
    | .error .incomplete => .error (.connection (.cutShort (total - (left + 1)) total))
    | .error cause => .error (.undecodable cause)

/-- The given number of replies, read from what came in. What follows them is of no concern. -/
def readReplies (count : Nat) (data : Bytes) : Except ExchangeError (List Reply) :=
  readRemaining count count data

theorem readRemaining_length {total left : Nat} {data : Bytes} {replies : List Reply}
    (h : readRemaining total left data = .ok replies) : replies.length = left := by
  induction left generalizing data replies with
  | zero => cases h; rfl
  | succ left ih =>
    unfold readRemaining at h
    split at h
    · next reply rest _ =>
      cases hrest : readRemaining total left rest with
      | error e => rw [hrest] at h; cases h
      | ok tail => rw [hrest] at h; cases h; simp [ih hrest]
    · cases h
    · cases h

theorem readReplies_length {count : Nat} {data : Bytes} {replies : List Reply}
    (h : readReplies count data = .ok replies) : replies.length = count :=
  readRemaining_length h

namespace Parcel

variable {σ : Type} [Network σ]

/-- What a parcel brings if this comes in for it. -/
def unpack (parcel : Parcel) : Except ConnectionError Bytes → Except ExchangeError (List Reply)
  | .ok data => readReplies parcel.count data
  | .error cause => .error (.connection cause)

def attempt (limit : Option Nat) (parcel : Parcel) :
    Activity σ (Except ExchangeError (List Reply)) := do
  let arrival ← Session.send limit parcel
  Session.wait arrival.delay
  pure (parcel.unpack arrival.result)

/-- Sends a parcel until the connection does not fail, up to the given number of times more than
once. -/
def exchangeWith (limit : Option Nat) (backoff : Backoff) (parcel : Parcel) :
    Nat → Activity σ (Except ExchangeError (List Reply))
  | 0 => parcel.attempt limit
  | left + 1 => do
    match ← parcel.attempt limit with
    | .error (.connection _) =>
      Session.pause backoff (backoff.retries.toNat - (left + 1))
      exchangeWith limit backoff parcel left
    | result => pure result

/-- Sends a parcel as often as it takes and is allowed. -/
def exchange (limit : Option Nat) (backoff : Backoff) (parcel : Parcel) : Call σ (List Reply) :=
  ExceptT.adapt (Error.ofExchange parcel.node)
    (ExceptT.mk (parcel.exchangeWith limit backoff backoff.retries.toNat))

end Parcel

end ClusterBatch
