import BridgeState.Http.Listing
import BridgeState.Url.Path

/-!
# Endpoints

What can be asked for, and the path and method by which it is. A path is known with a line feed at its
end too; an id is one step of a path and never empty. A path that is known only without the slashes at
its end is redirected there.
-/

namespace BridgeState.Http

set_option autoImplicit false

open Text

inductive Endpoint where
  | alive
  | health
  | metrics
  | about
  | events
  | page (listing : Listing)
  | message (id : String)
  | account (address : String)
  | limits
  | sync

namespace Endpoint

def listings : List (String × Listing) :=
  [("/api/public/messages", ⟨.messages, Listing.byStatus MessageStatus⟩),
   ("/api/public/bridge-messages", ⟨.bridgeMessages, Listing.byStatus BridgeMessageStatus⟩),
   ("/api/public/accounts", ⟨.accounts, Listing.byStatus AccountStatus⟩),
   ("/api/public/account-messages", ⟨.accountMessages, Listing.whole⟩),
   ("/api/public/limit-messages", ⟨.limitMessages, Listing.whole⟩),
   ("/api/public/limit-proposals", ⟨.limitProposals, Listing.byStatus ProposalStatus⟩),
   ("/api/public/validators", ⟨.candidateValidators, Listing.byActivity⟩),
   ("/api/public/validators-proposals",
     ⟨.candidatesValidatorsProposals, Listing.byStatus ProposalStatus⟩),
   ("/api/public/validators-lists", ⟨.validatorsListMessages, Listing.whole⟩)]

def fixed : List (String × Endpoint) :=
  [("/health", .alive), ("/health/detailed", .health), ("/metrics", .metrics), ("/api", .about),
   ("/api/events", .events), ("/api/public/limits", .limits), ("/api/public/sync", .sync)]
    ++ listings.map fun entry => (entry.1, .page entry.2)

def stepBehind (folder : String) (path : List Char) : Option String :=
  if folder.toList.isPrefixOf path then
    let step := path.drop folder.length
    if step.isEmpty || step.contains '/' then none else some (String.ofList step)
  else none

def atPath (path : List Char) : Option Endpoint :=
  ((fixed.find? fun entry => entry.1.toList == Path.withoutLineEnd path).map Prod.snd)
    <|> (stepBehind "/api/public/messages/" path).map .message
    <|> (stepBehind "/api/public/accounts/" path).map .account

def redirected? (path : List Char) : Option (List Char) :=
  let bare := Path.withoutSlashes path
  if (atPath path).isNone && (atPath bare).isSome then some bare else none

/-- A path that is redirected is known where it is redirected to, and is not redirected from there. -/
theorem redirected?_known {path bare : List Char} (redirected : redirected? path = some bare) :
    (atPath bare).isSome = true ∧ redirected? bare = none := by
  simp only [redirected?] at redirected
  split at redirected
  · rename_i known
    obtain rfl := Option.some.inj redirected
    have there : (atPath (Path.withoutSlashes path)).isSome = true := by simp_all
    have notNone : (atPath (Path.withoutSlashes path)).isNone = false := by
      simpa [Option.isSome_iff_ne_none] using there
    exact ⟨there, by simp [redirected?, notNone]⟩
  · simp at redirected

def method : Endpoint → String
  | .events => "POST"
  | _ => "GET"

end Endpoint

end BridgeState.Http
