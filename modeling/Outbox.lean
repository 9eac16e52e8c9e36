import Outbox.Act
import Outbox.Address
import Outbox.Address.Grammar
import Outbox.Backoff
import Outbox.Base64
import Outbox.Build
import Outbox.Charset
import Outbox.Charset.Big5
import Outbox.Charset.Chinese
import Outbox.Charset.Gb
import Outbox.Charset.Grid
import Outbox.Charset.Japanese
import Outbox.Charset.Jis
import Outbox.Charset.JisSupplement
import Outbox.Charset.Korean
import Outbox.Charset.Ksx
import Outbox.Charset.Upper
import Outbox.Charset.Utf16
import Outbox.Charset.Utf7
import Outbox.Context
import Outbox.Dkim.Der
import Outbox.Dkim.Pem
import Outbox.Dkim.Relaxed
import Outbox.Dkim.Rsa
import Outbox.Dkim.Signature
import Outbox.Error
import Outbox.Hash.Hmac
import Outbox.Hash.Md5
import Outbox.Hash.Sha256
import Outbox.Headers
import Outbox.Hooks
import Outbox.Link
import Outbox.Mailer
import Outbox.Means
import Outbox.Message
import Outbox.Mime.Base64Lines
import Outbox.Mime.EncodedWord
import Outbox.Mime.Field
import Outbox.Mime.Payload
import Outbox.Mime.QuotedPrintable
import Outbox.Mime.WordDecoding
import Outbox.Octets
import Outbox.Pool
import Outbox.Proofs.Act
import Outbox.Proofs.Address.DisplayList
import Outbox.Proofs.Address.Scanner
import Outbox.Proofs.Backoff
import Outbox.Proofs.Base64
import Outbox.Proofs.Context.Deeds
import Outbox.Proofs.Context.Forest
import Outbox.Proofs.Dkim.CanonicalBody
import Outbox.Proofs.Dkim.CanonicalField
import Outbox.Proofs.Dkim.Prescribed
import Outbox.Proofs.Dkim.Refolding
import Outbox.Proofs.Dkim.Relaxed
import Outbox.Proofs.Dkim.RelaxedLines
import Outbox.Proofs.Dkim.Selection
import Outbox.Proofs.Dkim.Tags
import Outbox.Proofs.Dkim.Transport
import Outbox.Proofs.Dkim.Written
import Outbox.Proofs.Hash.Hmac
import Outbox.Proofs.Headers
import Outbox.Proofs.Headers.OrderedMap
import Outbox.Proofs.Mailer.Cancellation
import Outbox.Proofs.Mailer.Deadline
import Outbox.Proofs.Mailer.Delivery
import Outbox.Proofs.Mailer.Recipients
import Outbox.Proofs.Mailer.Sessions
import Outbox.Proofs.Mailer.Trace
import Outbox.Proofs.Mime.Base64Lines
import Outbox.Proofs.Mime.Boundary
import Outbox.Proofs.Mime.EncodedWord
import Outbox.Proofs.Mime.Entity
import Outbox.Proofs.Mime.Field
import Outbox.Proofs.Mime.FinalHeader
import Outbox.Proofs.Mime.Folding
import Outbox.Proofs.Mime.HeaderBlock
import Outbox.Proofs.Mime.HeaderText
import Outbox.Proofs.Mime.LineEnds
import Outbox.Proofs.Mime.Payload
import Outbox.Proofs.Mime.QuotedPrintable
import Outbox.Proofs.Mime.TrailingBlank
import Outbox.Proofs.Mime.Unfolding
import Outbox.Proofs.Pool.Accounts
import Outbox.Proofs.Pool.Acquire
import Outbox.Proofs.Pool.Calls
import Outbox.Proofs.RateLimit.Bucket
import Outbox.Proofs.RateLimit.Overflow
import Outbox.Proofs.RateLimit.Polling
import Outbox.Proofs.Smtp.Connect
import Outbox.Proofs.Smtp.Exchange
import Outbox.Proofs.Smtp.Grant
import Outbox.Proofs.Smtp.KeyedLogin
import Outbox.Proofs.Smtp.Negotiation
import Outbox.Proofs.Smtp.Segmentation
import Outbox.Proofs.Smtp.Transparency
import Outbox.Proofs.Smtp.Wire
import Outbox.Proofs.Text.Encoding
import Outbox.Proofs.Text.Lines
import Outbox.Proofs.Text.Trim
import Outbox.Proofs.Text.Utf8
import Outbox.RateLimit
import Outbox.RateLimit.Double
import Outbox.RateLimit.Queue
import Outbox.Settings
import Outbox.Smtp.Capabilities
import Outbox.Smtp.Connection
import Outbox.Smtp.Dialogue
import Outbox.Smtp.Ehlo
import Outbox.Smtp.Envelope
import Outbox.Smtp.Login
import Outbox.Smtp.Reader
import Outbox.Smtp.Reply
import Outbox.Smtp.ReplyReader
import Outbox.Smtp.ServerName
import Outbox.Smtp.Setup
import Outbox.Smtp.Stage
import Outbox.Smtp.Transparency
import Outbox.Smtp.Wire
import Outbox.Template
import Outbox.Text.Classes
import Outbox.Text.Describe
import Outbox.Text.Printable
import Outbox.Text.Quote
import Outbox.Text.Utf8
import Outbox.Time.Date
import Outbox.Time.Duration
import Outbox.Time.Instant
import Outbox.World
