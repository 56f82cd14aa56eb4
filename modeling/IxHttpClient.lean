import IxHttpClient.StringMap
import IxHttpClient.NumGet
import IxHttpClient.Transport
import IxHttpClient.Request
import IxHttpClient.Engine
import IxHttpClient.Stages
import IxHttpClient.Redirects
import IxHttpClient.Paths
import IxHttpClient.WireRequest
import IxHttpClient.BodyFraming
import IxHttpClient.ResponseHeaders
import IxHttpClient.HeadRequests
import IxHttpClient.FormEncoding
import IxHttpClient.Dispatcher
import IxHttpClient.DispatchOrder
import IxHttpClient.Shutdown
import IxHttpClient.WsHttpClient
import IxHttpClient.ErrorMessages
import IxHttpClient.Gzip
import IxHttpClient.BodyDecoding
import IxHttpClient.Traffic
import IxHttpClient.RequestFraming
import IxHttpClient.WsHttpClientOutput
import IxHttpClient.DispatchProgress
