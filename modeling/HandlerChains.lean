import HandlerChains.Pattern
import HandlerChains.Site.Config
import HandlerChains.Router.Add
import HandlerChains.Router.Describe
import HandlerChains.Router.Plug
import HandlerChains.Resolve
import HandlerChains.Dispatch.Run
import HandlerChains.Declared.Construct
import HandlerChains.Perform
import HandlerChains.Example.Blog
import HandlerChains.Proofs.Blog.Answers
import HandlerChains.Proofs.Declared.Agreement
import HandlerChains.Proofs.Declared.Lookup
import HandlerChains.Proofs.Declared.Order
import HandlerChains.Proofs.Dispatch.Failure
import HandlerChains.Proofs.Dispatch.Propagation
import HandlerChains.Proofs.Dispatch.Completion
import HandlerChains.Proofs.Dispatch.Configuring
import HandlerChains.Proofs.Dispatch.Declining
import HandlerChains.Proofs.Dispatch.Methods
import HandlerChains.Proofs.Dispatch.Flattening
import HandlerChains.Proofs.Dispatch.LogLines
import HandlerChains.Proofs.Dispatch.Nesting
import HandlerChains.Proofs.Dispatch.Reusing
import HandlerChains.Proofs.Dispatch.Snapshot
import HandlerChains.Proofs.Dispatch.Unlogged
import HandlerChains.Proofs.Pattern.Filling
import HandlerChains.Proofs.Pattern.Grammar
import HandlerChains.Proofs.Pattern.Groups
import HandlerChains.Proofs.Pattern.Preference
import HandlerChains.Proofs.Pattern.Replacing
import HandlerChains.Proofs.Pattern.Language
import HandlerChains.Proofs.Pattern.Starts
import HandlerChains.Proofs.Plugin.OtherHandlers
import HandlerChains.Proofs.Router.Addressing
import HandlerChains.Proofs.Router.FailedPlug
import HandlerChains.Proofs.Router.FailedRegistration
import HandlerChains.Proofs.Router.Interleaving
import HandlerChains.Proofs.Router.Reached
import HandlerChains.Proofs.Plugin.Data
import HandlerChains.Proofs.Plugin.Delivery
import HandlerChains.Proofs.Plugin.Flags
import HandlerChains.Proofs.Dispatch.Reporting
import HandlerChains.Proofs.Plugin.Targets
import HandlerChains.Proofs.Resolve.Prefixes
import HandlerChains.Proofs.Resolve.Registered
import HandlerChains.Proofs.Site.BaseUrl
