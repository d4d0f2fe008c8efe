import Tenancy.Logging.Install
import Tenancy.Proofs.Activation.Guards
import Tenancy.Proofs.Artifact.Header
import Tenancy.Proofs.Artifact.Manifest
import Tenancy.Proofs.Bundle.Packing
import Tenancy.Proofs.Bundle.Units
import Tenancy.Proofs.Config.Inline
import Tenancy.Proofs.Config.Loading
import Tenancy.Proofs.Config.Startup
import Tenancy.Proofs.Context.Closers
import Tenancy.Proofs.Context.Definers
import Tenancy.Proofs.Context.Leftovers
import Tenancy.Proofs.Context.Order
import Tenancy.Proofs.Context.Retirement
import Tenancy.Proofs.Logging.Directive
import Tenancy.Proofs.Logging.Install
import Tenancy.Proofs.Plugin.Handles
import Tenancy.Proofs.Registry.Cleanup
import Tenancy.Proofs.Registry.Contents
import Tenancy.Proofs.Registry.Enlisting
import Tenancy.Proofs.Registry.Indifference
import Tenancy.Proofs.Registry.Interleaving
import Tenancy.Proofs.Registry.Isolation
import Tenancy.Proofs.Registry.Ownership
import Tenancy.Proofs.Registry.Resolving
import Tenancy.Proofs.Repeats
import Tenancy.Proofs.Service.Scopes
import Tenancy.Proofs.Table
import Tenancy.Session.Start
