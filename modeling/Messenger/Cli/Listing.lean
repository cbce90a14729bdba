/-
Listings for people to read: one row a line, in columns.

A body that goes out is still readable on this device, so the listings show it where a list of
conversations would show that it will be encrypted.
-/
import Messenger.Contact
import Messenger.Group
import Messenger.Message.Basic
import Messenger.Outbox.Scan
import Messenger.Text.Pad
import Messenger.Thread

namespace Messenger.Cli

open Text (padLeft padRight)

/-- A text of at most so many characters; one that is longer ends in an ellipsis. -/
def shorten (width : Nat) (s : String) : String :=
  if s.length ≤ width then s else String.ofList (s.toList.take (width - 1)) ++ "…"

theorem length_shorten (width : Nat) (s : String) (h : 0 < width) :
    (shorten width s).length ≤ width := by
  unfold shorten
  split
  · assumption
  · have ellipsis : "…".length = 1 := rfl
    rw [String.length_append, String.length_ofList, List.length_take]
    omega

/-- The number of characters of a message that a row has room for. -/
def previewWidth : Nat := 40

/-- What a listing shows of a message. -/
def preview (message : Message) : String :=
  let plain := message.direction = .outgoing && message.groupCommand.isNone
    && message.attachment.isNone && message.location.isNone
  match message.text? with
  | some text => if plain then text else message.snippet
  | none => message.snippet

def lines (rows : List String) : String := String.join (rows.map (· ++ "\n"))

def linesOr (nothing : String) (rows : List String) : String :=
  lines (if rows.isEmpty then [nothing] else rows)

def queueRow (m : Message) : String :=
  padLeft 6 (toString m.id.val) ++ "  " ++ padRight 14 m.status.name ++ " "
    ++ padRight 32 m.peer.text ++ " " ++ shorten previewWidth (preview m)

def arrow : Direction → String
  | .incoming => "<-"
  | .outgoing => "->"

def messageRow (m : Message) : String :=
  padLeft 6 (toString m.id.val) ++ " " ++ arrow m.direction ++ " [" ++ m.status.name ++ "] "
    ++ preview m

def threadRow (t : Thread) : String :=
  let snippet := (t.lastMessage.map fun s => shorten previewWidth s.snippet).getD ""
  padLeft 4 (toString t.id.val) ++ "  " ++ padRight 5 (if t.isGroup then "group" else "chat") ++ " "
    ++ padRight 32 t.peer.text ++ " " ++ padLeft 4 (toString t.messageCount) ++ "  " ++ snippet

def groupRow (g : Group) : String :=
  padRight 32 g.id.text ++ " " ++ padRight 20 (g.subject.getD "-") ++ " members: "
    ++ toString g.liveMembers.length

def addressBookRow (e : AddressBookEntry) : String :=
  padRight 20 e.number ++ " " ++ padRight 20 (e.displayName.getD "-") ++ " " ++ e.lookupKey

def contactRow (c : Contact) : String :=
  padRight 24 c.displayName ++ " " ++ padRight 44 c.identity.text ++ " " ++ c.number
    ++ if c.blocked then " (blocked)" else ""

def dispatchRow : Dispatch → String
  | .send id => "  send    " ++ toString id.val
  | .upload id => "  upload  " ++ toString id.val

def skipReasonLabel : SkipReason → String
  | .stalled => "Stalled"
  | .emptyGroup => "EmptyGroup"
  | .awaitingUploadService => "AwaitingUploadService"

def skippedRow (skipped : MessageId × SkipReason) : String :=
  "  " ++ padRight 7 (toString skipped.1.val) ++ " " ++ skipReasonLabel skipped.2

/-- What a scan does, list by list. -/
def planRows (plan : Plan) : List String :=
  ["Dispatched: " ++ toString plan.dispatch.length] ++ plan.dispatch.map dispatchRow
    ++ ["Skipped: " ++ toString plan.skipped.length] ++ plan.skipped.map skippedRow
    ++ ["Deleted: " ++ toString plan.delete.length]

end Messenger.Cli
