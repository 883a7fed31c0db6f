namespace ClientGen.SupportCode

def ofLines (lines : List String) : String := String.join (lines.map (· ++ "\n"))

/-- The module that sends requests and reads responses. -/
def requests : String := ofLines [
  "/**",
  " * Runtime for clients generated by fetchgen.",
  " */",
  "",
  "import * as QS from \"./query\";",
  "",
  "export type CustomHeaders = Record<string, string | number | boolean | null | undefined>;",
  "",
  "export type RequestOpts = \x7b",
  "  baseUrl?: string;",
  "  fetch?: typeof fetch;",
  "  formDataConstructor?: new () => FormData;",
  "  headers?: CustomHeaders;",
  "\x7d & Omit<RequestInit, \"body\" | \"headers\">;",
  "",
  "export type Defaults<Headers extends CustomHeaders> = Omit<RequestOpts, \"baseUrl\" | \"headers\"> & \x7b",
  "  baseUrl: string;",
  "  headers: Headers;",
  "\x7d;",
  "",
  "export type ApiResponse = \x7b status: number; data?: unknown \x7d;",
  "",
  "type WithHeaders<T extends ApiResponse> = T & \x7b headers: Headers \x7d;",
  "",
  "type SuccessResponse<T extends ApiResponse> = Extract<T, \x7b status: 200 \x7d>;",
  "",
  "type FetchRequestOpts = RequestOpts & \x7b body?: string | FormData | Blob \x7d;",
  "type JsonRequestOpts = RequestOpts & \x7b body?: unknown \x7d;",
  "type FormRequestOpts = RequestOpts & \x7b body?: Record<string, unknown> \x7d;",
  "type MultipartRequestOpts = RequestOpts & \x7b body?: Record<string, unknown> \x7d;",
  "",
  "export function runtime(defaults: RequestOpts) \x7b",
  "  async function doFetch(url: string, req: FetchRequestOpts = \x7b\x7d) \x7b",
  "    const \x7b",
  "      baseUrl,",
  "      headers,",
  "      fetch: customFetch,",
  "      formDataConstructor: _formData,",
  "      ...init",
  "    \x7d = \x7b",
  "      ...defaults,",
  "      ...req,",
  "      headers: mergeHeaders(defaults.headers, req.headers),",
  "    \x7d;",
  "    const href = joinUrl(baseUrl, url);",
  "    return (customFetch ?? fetch)(href, \x7b ...init, headers: stripUndefined(headers) \x7d);",
  "  \x7d",
  "",
  "  async function fetchText(url: string, req?: FetchRequestOpts) \x7b",
  "    const res = await doFetch(url, req);",
  "    let data: string | undefined;",
  "    try \x7b",
  "      data = await res.text();",
  "    \x7d catch \x7b",
  "      data = undefined;",
  "    \x7d",
  "    return \x7b",
  "      status: res.status,",
  "      headers: res.headers,",
  "      contentType: res.headers.get(\"content-type\"),",
  "      data,",
  "    \x7d;",
  "  \x7d",
  "",
  "  async function fetchJson<T extends ApiResponse>(url: string, req: FetchRequestOpts = \x7b\x7d) \x7b",
  "    const \x7b status, headers, contentType, data \x7d = await fetchText(url, \x7b",
  "      ...req,",
  "      headers: mergeHeaders(\x7b Accept: \"application/json\" \x7d, req.headers),",
  "    \x7d);",
  "    const isJson = contentType ? contentType.includes(\"json\") : false;",
  "    return \x7b",
  "      status,",
  "      headers,",
  "      data: isJson && data ? JSON.parse(data) : data,",
  "    \x7d as WithHeaders<T>;",
  "  \x7d",
  "",
  "  async function fetchBlob<T extends ApiResponse>(url: string, req?: FetchRequestOpts) \x7b",
  "    const res = await doFetch(url, req);",
  "    let data: Blob | undefined;",
  "    try \x7b",
  "      data = await res.blob();",
  "    \x7d catch \x7b",
  "      data = undefined;",
  "    \x7d",
  "    return \x7b status: res.status, headers: res.headers, data \x7d as WithHeaders<T>;",
  "  \x7d",
  "",
  "  function json(\x7b body, headers, ...req \x7d: JsonRequestOpts): FetchRequestOpts \x7b",
  "    return \x7b",
  "      ...req,",
  "      ...(body != null && \x7b body: JSON.stringify(body) \x7d),",
  "      headers: mergeHeaders(headers, \x7b \"Content-Type\": \"application/json\" \x7d),",
  "    \x7d;",
  "  \x7d",
  "",
  "  function form(\x7b body, headers, ...req \x7d: FormRequestOpts): FetchRequestOpts \x7b",
  "    return \x7b",
  "      ...req,",
  "      ...(body != null && \x7b body: QS.form(body) \x7d),",
  "      headers: mergeHeaders(headers, \x7b",
  "        \"Content-Type\": \"application/x-www-form-urlencoded\",",
  "      \x7d),",
  "    \x7d;",
  "  \x7d",
  "",
  "  function multipart(\x7b body, ...req \x7d: MultipartRequestOpts): FetchRequestOpts \x7b",
  "    if (body == null) return req;",
  "    const FormDataImpl = req.formDataConstructor ?? defaults.formDataConstructor ?? FormData;",
  "    const data = new FormDataImpl();",
  "    const append = (name: string, value: unknown) => \x7b",
  "      if (typeof value === \"string\" || value instanceof Blob) \x7b",
  "        data.append(name, value);",
  "      \x7d else if (typeof value === \"number\" || typeof value === \"boolean\") \x7b",
  "        data.append(name, String(value));",
  "      \x7d else \x7b",
  "        data.append(name, new Blob([JSON.stringify(value)], \x7b type: \"application/json\" \x7d));",
  "      \x7d",
  "    \x7d;",
  "    for (const [name, value] of Object.entries(body)) \x7b",
  "      if (Array.isArray(value)) \x7b",
  "        value.forEach((v) => append(name, v));",
  "      \x7d else if (value !== undefined) \x7b",
  "        append(name, value);",
  "      \x7d",
  "    \x7d",
  "    return \x7b ...req, body: data \x7d;",
  "  \x7d",
  "",
  "  return \x7b ok, fetchText, fetchJson, fetchBlob, json, form, multipart, mergeHeaders \x7d;",
  "\x7d",
  "",
  "export function mergeHeaders(",
  "  base: CustomHeaders | undefined,",
  "  overrides: CustomHeaders | undefined,",
  "): CustomHeaders \x7b",
  "  return \x7b ...base, ...overrides \x7d;",
  "\x7d",
  "",
  "function stripUndefined(headers: CustomHeaders): Record<string, string> \x7b",
  "  const out: Record<string, string> = \x7b\x7d;",
  "  for (const [name, value] of Object.entries(headers)) \x7b",
  "    if (value !== undefined && value !== null) out[name] = String(value);",
  "  \x7d",
  "  return out;",
  "\x7d",
  "",
  "function joinUrl(baseUrl: string | undefined, url: string): string \x7b",
  "  if (!baseUrl) return url;",
  "  return `$\x7bbaseUrl.replace(/\\/$/, \"\")\x7d/$\x7burl.replace(/^\\//, \"\")\x7d`;",
  "\x7d",
  "",
  "// Result unwrapping",
  "",
  "export class HttpError extends Error \x7b",
  "  status: number;",
  "  data?: unknown;",
  "  headers?: Headers;",
  "",
  "  constructor(status: number, data: unknown, headers?: Headers) \x7b",
  "    super(`Error: $\x7bstatus\x7d`);",
  "    this.name = \"HttpError\";",
  "    this.status = status;",
  "    this.data = data;",
  "    this.headers = headers;",
  "  \x7d",
  "\x7d",
  "",
  "/** The payload of a 200 response; anything else throws an `HttpError`. */",
  "export async function ok<T extends ApiResponse>(",
  "  promise: Promise<T>,",
  "): Promise<SuccessResponse<T>[\"data\"]> \x7b",
  "  const res = (await promise) as T & \x7b headers?: Headers \x7d;",
  "  if (res.status === 200) return res.data as SuccessResponse<T>[\"data\"];",
  "  throw new HttpError(res.status, res.data, res.headers);",
  "\x7d",
  "",
  "type Handlers<T extends ApiResponse> = \x7b",
  "  [S in T[\"status\"]]?: (data: Extract<T, \x7b status: S \x7d>[\"data\"]) => unknown;",
  "\x7d & \x7b default?: (status: number, data: unknown) => unknown \x7d;",
  "",
  "/** Call the handler registered for the response status, or `default`. */",
  "export async function handle<T extends ApiResponse>(promise: Promise<T>, handlers: Handlers<T>) \x7b",
  "  const \x7b status, data \x7d = await promise;",
  "  const handler = (handlers as Record<number, ((data: unknown) => unknown) | undefined>)[status];",
  "  if (handler) return handler(data);",
  "  if (handlers.default) return handlers.default(status, data);",
  "  throw new HttpError(status, data);",
  "\x7d",
  "",
  "type Unwrapped<F> = F extends (...args: infer A) => Promise<infer R extends ApiResponse>",
  "  ? (...args: A) => Promise<SuccessResponse<R>[\"data\"]>",
  "  : F;",
  "",
  "/** Wrap a generated function so every call goes through `ok`. */",
  "export function okify<F extends (...args: never[]) => Promise<ApiResponse>>(fn: F): Unwrapped<F> \x7b",
  "  return ((...args: Parameters<F>) => ok(fn(...args))) as Unwrapped<F>;",
  "\x7d",
  "",
  "/** `okify` applied to every function of a generated module. */",
  "export function optimistic<M extends Record<string, unknown>>(api: M): \x7b [K in keyof M]: Unwrapped<M[K]> \x7d \x7b",
  "  const out: Record<string, unknown> = \x7b\x7d;",
  "  for (const [name, value] of Object.entries(api)) \x7b",
  "    out[name] =",
  "      typeof value === \"function\" ? okify(value as (...args: never[]) => Promise<ApiResponse>) : value;",
  "  \x7d",
  "  return out as \x7b [K in keyof M]: Unwrapped<M[K]> \x7d;",
  "\x7d"]

/-- The module that encodes query parameters. -/
def queries : String := ofLines [
  "/**",
  " * Query string encoders for the OpenAPI parameter styles.",
  " *",
  " * Every encoder takes a name to value mapping and returns one query fragment",
  " * without a leading `?`. `undefined` values are dropped.",
  " */",
  "",
  "type Params = Record<string, unknown>;",
  "",
  "function encode(value: unknown): string \x7b",
  "  return encodeURIComponent(String(value));",
  "\x7d",
  "",
  "function defined(params: Params): [string, unknown][] \x7b",
  "  return Object.entries(params).filter(([, value]) => value !== undefined);",
  "\x7d",
  "",
  "function delimited(delimiter: string) \x7b",
  "  return (params: Params): string =>",
  "    defined(params)",
  "      .map(([name, value]) => \x7b",
  "        const items = Array.isArray(value)",
  "          ? value.map(encode)",
  "          : value !== null && typeof value === \"object\"",
  "            ? Object.entries(value as Params)",
  "                .filter(([, v]) => v !== undefined)",
  "                .flatMap(([k, v]) => [encode(k), encode(v)])",
  "            : [encode(value)];",
  "        return `$\x7bencode(name)\x7d=$\x7bitems.join(delimiter)\x7d`;",
  "      \x7d)",
  "      .join(\"&\");",
  "\x7d",
  "",
  "/** `style=form, explode=false`: `a=1,2` */",
  "export const form = delimited(\",\");",
  "",
  "/** `style=pipeDelimited`: `a=1|2` */",
  "export const pipe = delimited(\"|\");",
  "",
  "/** `style=spaceDelimited`: `a=1%202` */",
  "export const space = delimited(\"%20\");",
  "",
  "/** `explode=true`: `a=1&a=2`, objects expand to their entries. */",
  "export function explode(params: Params): string \x7b",
  "  return defined(params)",
  "    .map(([name, value]) => \x7b",
  "      if (Array.isArray(value)) \x7b",
  "        return value.map((v) => `$\x7bencode(name)\x7d=$\x7bencode(v)\x7d`).join(\"&\");",
  "      \x7d",
  "      if (value !== null && typeof value === \"object\") \x7b",
  "        return explode(value as Params);",
  "      \x7d",
  "      return `$\x7bencode(name)\x7d=$\x7bencode(value)\x7d`;",
  "    \x7d)",
  "    .join(\"&\");",
  "\x7d",
  "",
  "/** `style=deepObject`: `a[b][c]=1`, arrays repeat the key without indices. */",
  "export function deep(params: Params, prefix?: string): string \x7b",
  "  return defined(params)",
  "    .map(([name, value]) => \x7b",
  "      const key = prefix ? `$\x7bprefix\x7d[$\x7bencode(name)\x7d]` : encode(name);",
  "      if (Array.isArray(value)) \x7b",
  "        return value.map((v) => `$\x7bkey\x7d=$\x7bencode(v)\x7d`).join(\"&\");",
  "      \x7d",
  "      if (value !== null && typeof value === \"object\") \x7b",
  "        return deep(value as Params, key);",
  "      \x7d",
  "      return `$\x7bkey\x7d=$\x7bencode(value)\x7d`;",
  "    \x7d)",
  "    .join(\"&\");",
  "\x7d",
  "",
  "/** `content: application/json`: the value is stringified first. */",
  "export function json(params: Params): string \x7b",
  "  return defined(params)",
  "    .map(([name, value]) => `$\x7bencode(name)\x7d=$\x7bencode(JSON.stringify(value))\x7d`)",
  "    .join(\"&\");",
  "\x7d",
  "",
  "/** Join fragments into `?a=1&b=2`, or an empty string. */",
  "export function query(...parts: string[]): string \x7b",
  "  const joined = parts.filter(Boolean).join(\"&\");",
  "  return joined ? `?$\x7bjoined\x7d` : \"\";",
  "\x7d"]

def files : List (String × String) := [("index.ts", requests), ("query.ts", queries)]

end ClientGen.SupportCode
