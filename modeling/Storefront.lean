import Storefront.Cart.Interleaving
import Storefront.Http.Response
import Storefront.Intake.Document
import Storefront.Migration.History
import Storefront.Monitoring
import Storefront.Proofs.Plans
import Storefront.Proofs.Tables
import Storefront.Proofs.Gates
import Storefront.Proofs.Mutations
import Storefront.Proofs.Accounting
import Storefront.Proofs.Atomicity
import Storefront.Proofs.RowMachine
import Storefront.Proofs.WellFormed
import Storefront.Proofs.Grouping
import Storefront.Proofs.Audit
import Storefront.Proofs.Interleaving
import Storefront.Proofs.RacingInserts
import Storefront.Proofs.StaleUpdates
import Storefront.Proofs.RacingReadds
import Storefront.Proofs.Reads
import Storefront.Proofs.Discretion
import Storefront.Proofs.BuyNow
import Storefront.Proofs.Carts
import Storefront.Proofs.Isolation
import Storefront.Proofs.Stories
import Storefront.Proofs.Permanence
import Storefront.Proofs.Tally
import Storefront.Proofs.Commuting
import Storefront.Proofs.CartViews
import Storefront.Proofs.Clearing
import Storefront.Proofs.Bodies
import Storefront.Proofs.Routes
import Storefront.Proofs.Access
import Storefront.Proofs.Delivery
import Storefront.Proofs.Complementarity
import Storefront.Proofs.Preconditions
import Storefront.Proofs.Signatures
import Storefront.Proofs.Base64
import Storefront.Proofs.Lexing
import Storefront.Proofs.Rereading
import Storefront.Proofs.Calendar
import Storefront.Proofs.Subjects
import Storefront.Proofs.Issuing
import Storefront.Proofs.Joins
import Storefront.Proofs.Contents
import Storefront.Proofs.Quotients
import Storefront.Proofs.Discounts
import Storefront.Proofs.Tiers
import Storefront.Proofs.Rounding
import Storefront.Proofs.Purchases
import Storefront.Proofs.Cutting
import Storefront.Proofs.LogLines
import Storefront.Proofs.Migrations
import Storefront.Proofs.Spellings
import Storefront.Proofs.Canonical
